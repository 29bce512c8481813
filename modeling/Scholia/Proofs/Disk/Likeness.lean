import Scholia.Proofs.Disk.Places

/-! # Disks that differ in some files only

Two disks may be the same but for what some files hold that are on both of them. Whatever is done to
both alike leaves them so: paths lead to the same places, directories are made or not made, and the
files at all other places are read the same.
-/

namespace Scholia

/-- What stands at a place on two disks, or under a name in two directories, is the same, or is a
    file on either side where files may differ. -/
def Likened (differ : Prop) (first second : Option DiskEntry) : Prop :=
  second = first ∨ differ ∧
    (∃ content, first = some (.file content)) ∧ ∃ content, second = some (.file content)

namespace Likened

variable {differ other : Prop} {first second third : Option DiskEntry}

theorem refl (differ : Prop) (entry : Option DiskEntry) : Likened differ entry entry :=
  .inl rfl

theorem files (may : differ) (one two : List UInt8) :
    Likened differ (some (.file one)) (some (.file two)) :=
  .inr ⟨may, ⟨one, rfl⟩, two, rfl⟩

theorem trans (like : Likened differ first second) (further : Likened differ second third) :
    Likened differ first third := by
  rcases like with rfl | ⟨may, here, there⟩
  · exact further
  · rcases further with rfl | ⟨-, -, end'⟩
    · exact .inr ⟨may, here, there⟩
    · exact .inr ⟨may, here, end'⟩

theorem weaken (like : Likened differ first second) (may : differ → other) :
    Likened other first second :=
  like.imp id fun ⟨here, rest⟩ => ⟨may here, rest⟩

theorem eq_of_not (like : Likened differ first second) (same : ¬differ) : second = first :=
  like.resolve_right fun ⟨may, _⟩ => same may

theorem isSome_eq (like : Likened differ first second) : second.isSome = first.isSome := by
  rcases like with rfl | ⟨-, ⟨_, rfl⟩, _, rfl⟩
  · rfl
  · rfl

theorem directory_iff (like : Likened differ first second) :
    second = some .directory ↔ first = some .directory := by
  rcases like with rfl | ⟨-, ⟨_, rfl⟩, _, rfl⟩
  · exact Iff.rfl
  · simp

end Likened

/-- Two directories are the same but for what some files in them hold. -/
structure Directory.Like (differ : String → Prop) (first second : Directory) : Prop where
  missing : second = .missing ↔ first = .missing
  blocked : second = .blocked ↔ first = .blocked
  entries : ∀ name, Likened (differ name) (first.entries.get? name) (second.entries.get? name)

/-- Two disks are the same but for what some files hold. -/
structure Disk.Like (differ : List String → Prop) (first second : Disk) : Prop where
  readOnly : second.readOnly = first.readOnly
  entries : ∀ place, Likened (differ place) (first.entry? place) (second.entry? place)

namespace Disk.Like

variable {differ other : List String → Prop} {first second third : Disk}

theorem refl (differ : List String → Prop) (disk : Disk) : Like differ disk disk :=
  ⟨rfl, fun _ => .inl rfl⟩

theorem trans (like : Like differ first second) (further : Like differ second third) :
    Like differ first third :=
  ⟨further.readOnly.trans like.readOnly, fun place => (like.entries place).trans (further.entries place)⟩

theorem weaken (like : Like differ first second) (may : ∀ place, differ place → other place) :
    Like other first second :=
  ⟨like.readOnly, fun place => (like.entries place).weaken (may place)⟩

theorem file?_eq (like : Like differ first second) {place : List String} (same : ¬differ place) :
    second.file? place = first.file? place :=
  file?_congr ((like.entries place).eq_of_not same)

theorem isDirectory_eq (like : Like differ first second) (place : List String) :
    second.isDirectory place = first.isDirectory place := by
  rw [Bool.eq_iff_iff, isDirectory_iff, isDirectory_iff, (like.entries place).directory_iff]

theorem follow_eq (like : Like differ first second) (place names : List String) :
    second.follow place names = first.follow place names := by
  induction names generalizing place with
  | nil => rfl
  | cons name rest ih =>
      rw [follow, follow, like.isDirectory_eq, (like.entries place).isSome_eq, ih]

theorem locate_eq (like : Like differ first second) (path : Path) :
    second.locate path = first.locate path :=
  like.follow_eq _ _

/-- A file is read the same if it is not one that differs. -/
theorem read_eq (like : Like differ first second) {path : Path} (same : ¬differ path.resolve) :
    second.read path = first.read path := by
  unfold read
  rw [like.locate_eq]
  cases found : first.locate path with
  | error fault => rfl
  | ok place =>
      obtain rfl := locate_ok found
      dsimp only [bind, Except.bind]
      rw [(like.entries _).eq_of_not same, like.isDirectory_eq]

theorem size_eq (like : Like differ first second) {path : Path} (same : ¬differ path.resolve) :
    second.size path = first.size path := by
  unfold size
  rw [like.locate_eq]
  cases found : first.locate path with
  | error fault => rfl
  | ok place =>
      obtain rfl := locate_ok found
      dsimp only
      rw [(like.entries _).eq_of_not same, like.isDirectory_eq]

theorem put (like : Like differ first second) (place : List String) (entry : DiskEntry) :
    Like differ (first.put place entry) (second.put place entry) := by
  refine ⟨like.readOnly, fun here => ?_⟩
  rw [entry?_put, entry?_put]
  split
  · exact .refl _ _
  · exact like.entries here

/-- A file that may differ is put on both sides. -/
theorem put_files (like : Like differ first second) {place : List String} (may : differ place)
    (one two : List UInt8) :
    Like differ (first.put place (.file one)) (second.put place (.file two)) := by
  refine ⟨like.readOnly, fun here => ?_⟩
  rw [entry?_put, entry?_put]
  split
  · next same => exact .files (same ▸ may) one two
  · exact like.entries here

/-- A file that may differ is put on one side, where there was one before. -/
theorem put_right (like : Like differ first second) {place : List String} (may : differ place)
    {old : List UInt8} (there : first.entry? place = some (.file old)) (content : List UInt8) :
    Like differ first (second.put place (.file content)) := by
  refine ⟨like.readOnly, fun here => ?_⟩
  rw [entry?_put]
  split
  · next same =>
    rw [same, there]
    exact .files may old content
  · exact like.entries here

theorem makeBelow (like : Like differ first second) (place names : List String) :
    (second.makeBelow place names).1 = (first.makeBelow place names).1 ∧
      Like differ (first.makeBelow place names).2 (second.makeBelow place names).2 := by
  induction names generalizing first second place with
  | nil => exact ⟨rfl, like⟩
  | cons name rest ih =>
      rw [Disk.makeBelow, Disk.makeBelow, like.isDirectory_eq,
        (like.entries (step place name)).isSome_eq]
      split
      · exact ih like _
      · split
        · exact ⟨rfl, like⟩
        · exact ih (like.put _ _) _

theorem makeDirectory (like : Like differ first second) (path : Path) :
    (second.makeDirectory path).1 = (first.makeDirectory path).1 ∧
      Like differ (first.makeDirectory path).2 (second.makeDirectory path).2 :=
  like.makeBelow _ _

theorem extend (like : Like differ first second) (place : List String) (bytes : List UInt8) :
    Like differ (first.extend place bytes) (second.extend place bytes) := by
  unfold Disk.extend
  rcases like.entries place with same | ⟨may, ⟨one, here⟩, two, there⟩
  · rw [same]
    rcases first.entry? place with _ | content | _
    · dsimp only
      rw [like.isDirectory_eq]
      split
      · exact like
      · exact like.put _ _
    · exact like.put _ _
    · exact like
  · rw [here, there]
    exact like.put_files may _ _

theorem append (like : Like differ first second) (path : Path) (bytes : List UInt8) :
    Like differ (first.append path bytes) (second.append path bytes) := by
  obtain ⟨same, opened⟩ := like.makeDirectory path.parent
  change Like differ (first.opened path) (second.opened path) at opened
  rw [append_eq, append_eq, same, opened.locate_eq]
  split
  · exact opened.extend _ bytes
  · exact opened

/-- How much is added to a file does not matter, as far as other files go. -/
theorem append_any (disk : Disk) (path : Path) (one two : List UInt8) :
    Like (fun place => place = path.resolve) (disk.append path one) (disk.append path two) := by
  rcases append_cases disk path with stays | ⟨-, -, -, puts⟩
  · rw [stays, stays]
    exact .refl _ _
  · obtain ⟨content, first⟩ := puts one
    obtain ⟨other, second⟩ := puts two
    rw [first, second]
    exact (Like.refl (fun place => place = path.resolve) _).put_files rfl _ _

/-- Nor does it matter how often something is added. -/
theorem append_append (disk : Disk) (path : Path) (one two : List UInt8) :
    Like (fun place => place = path.resolve) (disk.append path one)
      ((disk.append path one).append path two) := by
  rcases append_cases disk path with stays | ⟨made, located, free, puts⟩
  · have again : (disk.opened path).append path two = disk.opened path :=
      (append_opened disk path two).trans (stays two)
    rw [stays, again]
    exact .refl _ _
  · obtain ⟨content, first⟩ := puts one
    rw [first]
    -- the directories are there by now, and stay there with the file put in
    have kept (place : List String) (there : (disk.opened path).isDirectory place = true) :
        ((disk.opened path).put path.resolve (.file content)).isDirectory place = true :=
      isDirectory_put (.inr free) there
    have held : Disk.entry? ((disk.opened path).put path.resolve (.file content)) path.resolve =
        some (.file content) := by rw [entry?_put, if_pos rfl]
    generalize (disk.opened path).put path.resolve (.file content) = next at kept held
    cases done : disk.makeDirectory path.parent with
    | mk result opened =>
        have same : disk.opened path = opened := congrArg Prod.snd done
        rw [done] at made
        rw [same] at kept located
        cases result with
        | error fault => cases made
        | ok target =>
            have ready : next.makeDirectory path.parent = (.ok _, next) :=
              makeBelow_of_way fun place on => kept place (way_of_makeBelow done place on)
            have settled : next.opened path = next := congrArg Prod.snd ready
            have reached : next.locate path = .ok path.resolve := follow_mono kept located
            rw [append_eq, ready, settled, reached]
            dsimp only
            rw [Disk.extend, held]
            exact (Like.refl (fun place => place = path.resolve) next).put_right rfl held _

theorem directory (like : Like differ first second) (place : List String) :
    Directory.Like (fun name => differ (place ++ [name])) (first.directory place)
      (second.directory place) := by
  cases there : first.isDirectory place with
  | true =>
      have too : second.isDirectory place = true := (like.isDirectory_eq place).trans there
      refine ⟨?_, ?_, fun name => ?_⟩
      · simp [Disk.directory, there, too]
      · simp [Disk.directory, there, too]
      · rw [get?_directory there, get?_directory too]
        exact like.entries _
  | false =>
      have same : second.directory place = first.directory place := by
        rw [Disk.directory, Disk.directory, like.isDirectory_eq, there,
          (like.entries place).isSome_eq]
        rfl
      rw [same]
      exact ⟨Iff.rfl, Iff.rfl, fun _ => .refl _ _⟩

/-- Two disks are alike if directories that are alike are kept on both. -/
theorem keep (like : Like differ first second) {place : List String} {one two : Directory}
    (kept : Directory.Like (fun name => differ (place ++ [name])) one two) :
    Like differ (first.keep place one) (second.keep place two) := by
  refine ⟨like.readOnly, fun here => ?_⟩
  rw [entry?_keep, entry?_keep]
  cases found : nameIn? place here with
  | none => exact like.entries here
  | some name =>
      rw [nameIn?_eq_some_iff.mp found]
      exact kept.entries name

end Disk.Like

end Scholia
