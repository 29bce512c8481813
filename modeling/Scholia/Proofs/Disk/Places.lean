import Scholia.Disk
import Scholia.Source.Language

/-! # What stands at a place

A disk is seen by what stands at each place. Making directories, adding to a file and keeping a
directory are told by what they do to that view, and a file is read from the place that its path
resolves to. Whether a file of a supported language may stand at a place is told by its last name.
-/

namespace Scholia

namespace Path

/-- A file of a supported language may stand at a resolved path. -/
def isSource (place : List String) : Bool :=
  Grammar.supports ⟨.absolute, place⟩

theorem follow_append (reached first second : List String) :
    follow reached (first ++ second) = follow (follow reached first) second := by
  induction first generalizing reached with
  | nil => rfl
  | cons name rest ih =>
      rw [List.cons_append, follow, follow]
      split
      · exact ih _
      · exact ih _

theorem follow_concat (reached names : List String) {name : String} (plain : name ≠ "..") :
    follow reached (names ++ [name]) = follow reached names ++ [name] := by
  rw [follow_append, follow, if_neg plain, follow]

theorem resolve_concat (root : PathRoot) (names : List String) {name : String}
    (plain : name ≠ "..") : ∃ reached, resolve ⟨root, names ++ [name]⟩ = reached ++ [name] := by
  unfold resolve
  split
  · exact ⟨_, follow_concat _ names plain⟩
  · exact ⟨_, follow_concat _ names plain⟩

/-- The suffix of a path is that of its last name. -/
theorem suffix_concat (root other : PathRoot) (first second : List String) (name : String) :
    suffix ⟨root, first ++ [name]⟩ = suffix ⟨other, second ++ [name]⟩ := by
  simp only [suffix, Path.name, List.getLast?_concat]

theorem not_supports_nil (root : PathRoot) : Grammar.supports ⟨root, []⟩ = false := by
  cases root <;> decide

theorem not_supports_dots (root : PathRoot) (names : List String) :
    Grammar.supports ⟨root, names ++ [".."]⟩ = false := by
  rw [Grammar.supports, suffix_concat root .absolute names []]
  decide

/-- A file of a supported language stands where such a file may stand. -/
theorem isSource_resolve {path : Path} (supported : Grammar.supports path = true) :
    isSource path.resolve = true := by
  obtain ⟨root, names⟩ := path
  rcases List.eq_nil_or_concat names with rfl | ⟨front, name, rfl⟩
  · rw [not_supports_nil] at supported
    cases supported
  · rw [List.concat_eq_append] at supported ⊢
    have plain : name ≠ ".." := by
      rintro rfl
      rw [not_supports_dots] at supported
      cases supported
    obtain ⟨reached, place⟩ := resolve_concat root front plain
    rw [place, isSource, Grammar.supports, suffix_concat .absolute root reached front]
    exact supported

end Path

namespace Disk

/-- The file at a place. -/
def file? (disk : Disk) (place : List String) : Option (List UInt8) :=
  match disk.entry? place with
  | some (.file content) => some content
  | _ => none

theorem file?_eq_some_iff {disk : Disk} {place : List String} {content : List UInt8} :
    disk.file? place = some content ↔ disk.entry? place = some (.file content) := by
  unfold file?
  split
  · next found => simp [found]
  · next other => simpa using other content

theorem file?_congr {first second : Disk} {place : List String}
    (same : second.entry? place = first.entry? place) : second.file? place = first.file? place := by
  rw [file?, file?, same]

/-! ## Following a path -/

theorem follow_ok {disk : Disk} {place reached : List String} {names : List String}
    (found : disk.follow place names = .ok reached) : reached = Path.follow place names := by
  induction names generalizing place with
  | nil =>
      cases found
      rfl
  | cons name rest ih =>
      rw [follow] at found
      split at found
      · rw [ih found, step, Path.follow]
        split
        · rfl
        · rfl
      · split at found
        · cases found
        · cases found

/-- A path leads to the place that it resolves to, or nowhere. -/
theorem locate_ok {disk : Disk} {path : Path} {place : List String}
    (found : disk.locate path = .ok place) : place = path.resolve := by
  rw [follow_ok found, start, Path.resolve]
  split
  · rfl
  · rfl

theorem read_ok {disk : Disk} {path : Path} {bytes : List UInt8}
    (done : disk.read path = .ok bytes) :
    disk.locate path = .ok path.resolve ∧ (disk.file? path.resolve).isSome = true := by
  unfold read at done
  cases found : disk.locate path with
  | error fault =>
      rw [found] at done
      cases done
  | ok place =>
      rw [found] at done
      obtain rfl := locate_ok found
      have there : ∃ content, disk.entry? path.resolve = some (.file content) := by
        dsimp only [bind, Except.bind] at done
        split at done
        · next content held => exact ⟨content, held⟩
        · cases done
      obtain ⟨content, held⟩ := there
      refine ⟨rfl, ?_⟩
      rw [file?_eq_some_iff.mpr held]
      rfl

/-! ## Putting an entry at a place -/

theorem lookup_filter_ne (place other : List String) (differ : other ≠ place)
    (entries : List (List String × DiskEntry)) :
    (entries.filter (·.1 ≠ place)).lookup other = entries.lookup other := by
  induction entries with
  | nil => rfl
  | cons entry rest ih =>
      obtain ⟨here, found⟩ := entry
      by_cases same : here = place
      · have skipped : (other == here) = false := by simpa [same] using differ
        rw [List.filter_cons_of_neg (by simpa using same), ih, List.lookup_cons, skipped]
      · rw [List.filter_cons_of_pos (by simpa using same), List.lookup_cons, List.lookup_cons, ih]

theorem entry?_put (disk : Disk) (place other : List String) (entry : DiskEntry) :
    Disk.entry? (disk.put place entry) other = if other = place then some entry else disk.entry? other := by
  unfold entry? put
  split
  · next same => rw [List.lookup_cons, same, beq_self_eq_true]
  · next differ =>
    rw [List.lookup_cons, beq_false_of_ne differ]
    exact lookup_filter_ne place other differ disk.entries

@[simp] theorem readOnly_put (disk : Disk) (place : List String) (entry : DiskEntry) :
    (disk.put place entry).readOnly = disk.readOnly := rfl

theorem file?_put_of_ne (disk : Disk) {place other : List String} (differ : other ≠ place)
    (entry : DiskEntry) : (disk.put place entry).file? other = disk.file? other :=
  file?_congr (by rw [entry?_put, if_neg differ])

theorem file?_put_file (disk : Disk) (place : List String) (content : List UInt8) :
    (disk.put place (.file content)).file? place = some content := by
  rw [file?_eq_some_iff, entry?_put, if_pos rfl]

theorem write_ok {disk written : Disk} {path : Path} {bytes : List UInt8}
    (done : disk.write path bytes = .ok written) :
    disk.readOnly.contains path = false ∧ disk.locate path = .ok path.resolve ∧
      written = disk.put path.resolve (.file bytes) := by
  unfold write at done
  split at done
  · cases done
  · next open' =>
    cases found : disk.locate path with
    | error fault =>
        rw [found] at done
        cases done
    | ok place =>
        rw [found] at done
        cases done
        obtain rfl := locate_ok found
        exact ⟨by simpa using open', rfl, rfl⟩

theorem isDirectory_iff {disk : Disk} {place : List String} : disk.isDirectory place = true ↔
    place.isPrefixOf Path.workingDirectory.names = true ∨ disk.entry? place = some .directory := by
  rw [isDirectory, Bool.or_eq_true]
  refine or_congr_right ?_
  rcases disk.entry? place with _ | content | _ <;> simp

/-- A directory does not get lost by what is put at a place without one. -/
theorem isDirectory_put {disk : Disk} {place other : List String} {entry : DiskEntry}
    (free : entry = .directory ∨ disk.entry? place ≠ some .directory)
    (there : disk.isDirectory other = true) : (disk.put place entry).isDirectory other = true := by
  rw [isDirectory_iff] at there ⊢
  rcases there with above | held
  · exact .inl above
  · right
    rw [entry?_put]
    split
    · next same =>
      subst same
      rcases free with rfl | nothing
      · rfl
      · exact absurd held nothing
    · exact held

/-! ## Making directories -/

/-- What putting a directory at a free place keeps, making directories keeps. -/
theorem makeBelow_keeps (property : Disk → Prop)
    (put : ∀ disk place, disk.entry? place = none → property disk →
      property (disk.put place .directory))
    {disk : Disk} (place : List String) (names : List String) (holds : property disk) :
    property (disk.makeBelow place names).2 := by
  induction names generalizing disk place with
  | nil => exact holds
  | cons name rest ih =>
      rw [makeBelow]
      split
      · exact ih _ holds
      · split
        · exact holds
        · next free => exact ih _ (put _ _ (by simpa using free) holds)

section

variable (disk : Disk) (place : List String) (names : List String)

theorem readOnly_makeBelow : (disk.makeBelow place names).2.readOnly = disk.readOnly :=
  makeBelow_keeps (fun made => made.readOnly = disk.readOnly)
    (fun _ _ _ same => same) place names rfl

/-- No file is touched where directories are made. -/
theorem file?_makeBelow (other : List String) :
    (disk.makeBelow place names).2.file? other = disk.file? other := by
  refine makeBelow_keeps (fun made => made.file? other = disk.file? other)
    (fun made next free same => ?_) place names rfl
  by_cases here : other = next
  · rw [← same, file?, entry?_put, if_pos here, file?, here, free]
  · rw [file?_put_of_ne made here, same]

variable {disk}

theorem isDirectory_makeBelow {other : List String} (there : disk.isDirectory other = true) :
    (disk.makeBelow place names).2.isDirectory other = true :=
  makeBelow_keeps (fun made => made.isDirectory other = true)
    (fun _ _ _ still => isDirectory_put (.inl rfl) still) place names there

end

theorem isDirectory_start (disk : Disk) (root : PathRoot) : disk.isDirectory (start root) = true := by
  cases root <;> simp [isDirectory, start]

/-- The places that names lead through from a place, one after another. -/
def way (place : List String) : List String → List (List String)
  | [] => []
  | name :: rest => step place name :: way (step place name) rest

/-- Where all directories are there, none is made. -/
theorem makeBelow_of_way {disk : Disk} {place : List String} {names : List String}
    (there : ∀ next ∈ way place names, disk.isDirectory next = true) :
    disk.makeBelow place names = (.ok (names.foldl step place), disk) := by
  induction names generalizing place with
  | nil => rfl
  | cons name rest ih =>
      obtain ⟨here, further⟩ := List.forall_mem_cons.mp there
      rw [makeBelow, if_pos here, ih further, List.foldl_cons]

theorem isDirectory_put_directory (disk : Disk) (place : List String) :
    (disk.put place .directory).isDirectory place = true :=
  isDirectory_iff.mpr (.inr (by rw [entry?_put, if_pos rfl]))

/-- Making directories comes to the first of them in one of three ways: it is there, a file is in
    the way, or it is made. -/
theorem makeBelow_cons (disk : Disk) (place : List String) (name : String) (rest : List String) :
    (∃ first : Disk, first.isDirectory (step place name) = true ∧
        disk.makeBelow place (name :: rest) = first.makeBelow (step place name) rest) ∨
      disk.isDirectory (step place name) = false ∧
        (disk.entry? (step place name)).isSome = true ∧
        disk.makeBelow place (name :: rest) = (.error .notADirectory, disk) := by
  rw [makeBelow]
  split
  · next here => exact .inl ⟨disk, here, rfl⟩
  · next missing =>
    split
    · next blocked => exact .inr ⟨by simpa using missing, blocked, rfl⟩
    · exact .inl ⟨_, isDirectory_put_directory disk _, rfl⟩

/-- Once directories have been made, all of them are there. -/
theorem way_of_makeBelow {disk made : Disk} {place target : List String} {names : List String}
    (done : disk.makeBelow place names = (.ok target, made)) :
    ∀ next ∈ way place names, made.isDirectory next = true := by
  induction names generalizing disk place with
  | nil => simp [way]
  | cons name rest ih =>
      rcases makeBelow_cons disk place name rest with ⟨first, here, same⟩ | ⟨-, -, same⟩
      · rw [same] at done
        have kept := isDirectory_makeBelow (step place name) rest here
        rw [done] at kept
        exact List.forall_mem_cons.mpr ⟨kept, ih done⟩
      · rw [same] at done
        cases done

/-- The place where directories were made is one. -/
theorem isDirectory_target {disk made : Disk} {place target : List String} {names : List String}
    (done : disk.makeBelow place names = (.ok target, made))
    (there : disk.isDirectory place = true) : made.isDirectory target = true := by
  induction names generalizing disk place with
  | nil =>
      cases done
      exact there
  | cons name rest ih =>
      rcases makeBelow_cons disk place name rest with ⟨first, here, same⟩ | ⟨-, -, same⟩
      · exact ih (same.symm.trans done) here
      · rw [same] at done
        cases done

/-- Directories that cannot all be made are not made the second time either. -/
theorem makeBelow_of_error {disk made : Disk} {place : List String} {names : List String}
    {fault : Fault} (failed : disk.makeBelow place names = (.error fault, made)) :
    made.makeBelow place names = (.error fault, made) := by
  induction names generalizing disk place with
  | nil => cases failed
  | cons name rest ih =>
      rcases makeBelow_cons disk place name rest with ⟨first, here, same⟩ | ⟨missing, blocked, same⟩
      · rw [same] at failed
        have kept := isDirectory_makeBelow (step place name) rest here
        rw [failed] at kept
        rw [makeBelow, if_pos kept, ih failed]
      · rw [same] at failed
        cases failed
        exact same

theorem target_eq {disk made : Disk} {place target : List String} {names : List String}
    (done : disk.makeBelow place names = (.ok target, made)) : target = names.foldl step place := by
  induction names generalizing disk place with
  | nil =>
      cases done
      rfl
  | cons name rest ih =>
      rcases makeBelow_cons disk place name rest with ⟨first, here, same⟩ | ⟨-, -, same⟩
      · exact ih (same.symm.trans done)
      · rw [same] at done
        cases done

/-- Making directories a second time changes nothing, and comes to the same. -/
theorem makeDirectory_again (disk : Disk) (path : Path) :
    (disk.makeDirectory path).2.makeDirectory path = disk.makeDirectory path := by
  unfold makeDirectory
  cases done : disk.makeBelow (start path.root) path.names with
  | mk result made =>
      cases result with
      | error fault => exact makeBelow_of_error done
      | ok target => rw [target_eq done, makeBelow_of_way (way_of_makeBelow done)]

/-! ## Adding to a file -/

/-- A path is followed to the same place where no directory is missing. -/
theorem follow_mono {first second : Disk} {place reached : List String} {names : List String}
    (kept : ∀ place, first.isDirectory place = true → second.isDirectory place = true)
    (found : first.follow place names = .ok reached) : second.follow place names = .ok reached := by
  induction names generalizing place with
  | nil => exact found
  | cons name rest ih =>
      rw [follow] at found ⊢
      split at found
      · next here =>
        rw [if_pos (kept place here)]
        exact ih found
      · split at found
        · cases found
        · cases found

section

variable (disk : Disk) (path : Path)

/-- The disk with the directories that a file lies in. -/
def opened : Disk :=
  (disk.makeDirectory path.parent).2

/-- Bytes are added at a place, where there is no directory. -/
def extend (place : List String) (bytes : List UInt8) : Disk :=
  match disk.entry? place with
  | some (.file content) => disk.put place (.file (content ++ bytes))
  | some .directory => disk
  | none => if disk.isDirectory place then disk else disk.put place (.file bytes)

theorem append_eq (bytes : List UInt8) :
    disk.append path bytes =
      match (disk.makeDirectory path.parent).1, (disk.opened path).locate path with
      | .ok _, .ok place => (disk.opened path).extend place bytes
      | _, _ => disk.opened path := rfl

/-- Adding to a file starts with making directories. -/
theorem append_opened (bytes : List UInt8) :
    (disk.opened path).append path bytes = disk.append path bytes := by
  rw [append_eq, append_eq, opened, opened, makeDirectory_again]

theorem extend_cases (place : List String) :
    (∀ bytes, disk.extend place bytes = disk) ∨ disk.entry? place ≠ some .directory ∧
      ∀ bytes, ∃ content, disk.extend place bytes = disk.put place (.file content) := by
  unfold extend
  rcases disk.entry? place with _ | content | _
  · cases disk.isDirectory place with
    | true => exact .inl fun bytes => rfl
    | false => exact .inr ⟨by simp, fun bytes => ⟨_, rfl⟩⟩
  · exact .inr ⟨by simp, fun bytes => ⟨_, rfl⟩⟩
  · exact .inl fun bytes => rfl

/-- Either nothing can be added to a file, or something is put at its place, where there is no
    directory. -/
theorem append_cases :
    (∀ bytes, disk.append path bytes = disk.opened path) ∨
      (disk.makeDirectory path.parent).1.isOk = true ∧
        (disk.opened path).locate path = .ok path.resolve ∧
        Disk.entry? (disk.opened path) path.resolve ≠ some .directory ∧
        ∀ bytes, ∃ content,
          disk.append path bytes = (disk.opened path).put path.resolve (.file content) := by
  cases made : (disk.makeDirectory path.parent).1 with
  | error fault => exact .inl fun bytes => by rw [append_eq, made]
  | ok target =>
      cases located : (disk.opened path).locate path with
      | error fault => exact .inl fun bytes => by rw [append_eq, made, located]
      | ok place =>
          obtain rfl := locate_ok located
          have same (bytes : List UInt8) :
              disk.append path bytes = (disk.opened path).extend path.resolve bytes := by
            rw [append_eq, made, located]
          rcases extend_cases (disk.opened path) path.resolve with stays | ⟨free, puts⟩
          · exact .inl fun bytes => (same bytes).trans (stays bytes)
          · exact .inr ⟨rfl, rfl, free, fun bytes => by rw [same]; exact puts bytes⟩

variable (bytes : List UInt8)

theorem readOnly_append : (disk.append path bytes).readOnly = disk.readOnly := by
  have made : (disk.opened path).readOnly = disk.readOnly := readOnly_makeBelow disk _ _
  rcases append_cases disk path with stays | ⟨-, -, -, puts⟩
  · rw [stays, made]
  · obtain ⟨content, same⟩ := puts bytes
    rw [same, readOnly_put, made]

/-- Adding to a file touches no other file. -/
theorem file?_append {other : List String} (differ : other ≠ path.resolve) :
    (disk.append path bytes).file? other = disk.file? other := by
  have made : (disk.opened path).file? other = disk.file? other := file?_makeBelow disk _ _ other
  rcases append_cases disk path with stays | ⟨-, -, -, puts⟩
  · rw [stays, made]
  · obtain ⟨content, same⟩ := puts bytes
    rw [same, file?_put_of_ne _ differ, made]

variable {disk}

theorem isDirectory_append {other : List String} (there : disk.isDirectory other = true) :
    (disk.append path bytes).isDirectory other = true := by
  have made : (disk.opened path).isDirectory other = true := isDirectory_makeBelow _ _ there
  rcases append_cases disk path with stays | ⟨-, -, free, puts⟩
  · rwa [stays]
  · obtain ⟨content, same⟩ := puts bytes
    rw [same]
    exact isDirectory_put (.inr free) made

end

/-! ## Keeping a directory -/

theorem nameIn?_eq_some_iff {directory place : List String} {name : String} :
    nameIn? directory place = some name ↔ place = directory ++ [name] := by
  unfold nameIn?
  constructor
  · intro found
    split at found
    · next same =>
      obtain ⟨front, rfl⟩ := List.getLast?_eq_some_iff.mp found
      rw [← same, List.dropLast_concat]
    · cases found
  · rintro rfl
    simp

theorem nameIn?_self (place : List String) : nameIn? place place = none := by
  cases found : nameIn? place place with
  | none => rfl
  | some name =>
      have longer := congrArg List.length (nameIn?_eq_some_iff.mp found)
      simp at longer

/-- The entries of a directory as those of the disk. -/
theorem lookup_map_place (place : List String) (table : Table DiskEntry) (name : String) :
    (table.map fun (name, entry) => (place ++ [name], entry)).lookup (place ++ [name]) =
      table.get? name := by
  induction table with
  | nil => rfl
  | cons entry rest ih =>
      rw [List.map_cons, List.lookup_cons, Table.get?, ih]
      by_cases same : entry.1 = name
      · simp [same]
      · have other : (place ++ [name] == place ++ [entry.1]) = false := by simpa using Ne.symm same
        rw [other, if_neg same]

theorem lookup_map_elsewhere {place other : List String} (table : Table DiskEntry)
    (elsewhere : nameIn? place other = none) :
    (table.map fun (name, entry) => (place ++ [name], entry)).lookup other = none := by
  induction table with
  | nil => rfl
  | cons entry rest ih =>
      have differ : (other == place ++ [entry.1]) = false := by
        refine beq_false_of_ne fun same => ?_
        rw [nameIn?_eq_some_iff.mpr same] at elsewhere
        cases elsewhere
      rw [List.map_cons, List.lookup_cons, differ, ih]

theorem lookup_filter_elsewhere {place other : List String}
    (elsewhere : nameIn? place other = none) (entries : List (List String × DiskEntry)) :
    (entries.filter fun (other, _) => (nameIn? place other).isNone).lookup other =
      entries.lookup other := by
  induction entries with
  | nil => rfl
  | cons entry rest ih =>
      obtain ⟨here, found⟩ := entry
      cases inside : nameIn? place here with
      | none =>
          rw [List.filter_cons_of_pos (by simp [inside]), List.lookup_cons, List.lookup_cons, ih]
      | some name =>
          have differ : (other == here) = false := by
            refine beq_false_of_ne fun same => ?_
            rw [same, inside] at elsewhere
            cases elsewhere
          rw [List.filter_cons_of_neg (by simp [inside]), List.lookup_cons, differ, ih]

theorem lookup_filter_inside {place other : List String} {name : String}
    (inside : nameIn? place other = some name) (entries : List (List String × DiskEntry)) :
    (entries.filter fun (other, _) => (nameIn? place other).isNone).lookup other = none := by
  refine List.lookup_eq_none_iff.mpr fun ⟨here, found⟩ member => bne_iff_ne.mpr ?_
  rintro rfl
  have outside : (nameIn? place other).isNone = true := (List.mem_filter.mp member).2
  rw [inside] at outside
  cases outside

/-- What is kept in a directory stands at the places in it, and nothing else changes. -/
theorem entry?_keep (disk : Disk) (place other : List String) (directory : Directory) :
    Disk.entry? (disk.keep place directory) other =
      match nameIn? place other with
      | some name => directory.entries.get? name
      | none => disk.entry? other := by
  unfold entry? keep
  rw [List.lookup_append]
  cases found : nameIn? place other with
  | none => rw [lookup_map_elsewhere _ found, lookup_filter_elsewhere found, Option.none_or]
  | some name =>
      rw [lookup_filter_inside found, Option.or_none, nameIn?_eq_some_iff.mp found,
        lookup_map_place]

theorem get?_directory {disk : Disk} {place : List String}
    (there : disk.isDirectory place = true) (name : String) :
    (disk.directory place).entries.get? name = disk.entry? (place ++ [name]) := by
  rw [directory, if_pos there, entry?]
  change Table.get? name (disk.entries.filterMap _) = _
  induction disk.entries with
  | nil => rfl
  | cons entry rest ih =>
      obtain ⟨here, found⟩ := entry
      cases inside : nameIn? place here with
      | none =>
          have differ : (place ++ [name] == here) = false := by
            refine beq_false_of_ne fun same => ?_
            rw [nameIn?_eq_some_iff.mpr same.symm] at inside
            cases inside
          rw [List.filterMap_cons_none (by simp [inside]), List.lookup_cons, differ, ih]
      | some own =>
          rw [List.filterMap_cons_some (by simp [inside]; rfl), List.lookup_cons, Table.get?, ih,
            nameIn?_eq_some_iff.mp inside]
          by_cases same : own = name
          · simp [same]
          · have differ : (place ++ [name] == place ++ [own]) = false := by
              simpa using Ne.symm same
            rw [if_neg same, differ]

theorem isDirectory_keep {disk : Disk} {place : List String} (there : disk.isDirectory place = true)
    (directory : Directory) : (disk.keep place directory).isDirectory place = true := by
  rw [isDirectory, entry?_keep, nameIn?_self]
  exact there

end Disk

end Scholia
