import Scholia.Proofs.Cache.Files
import Scholia.Settings.Schema

/-! # Numbers that were read

A number that was read from a section is the one that its text stands for, and it keeps the bounds
of its option. Bounds are checked by asking whether the number is less than the least or greater than
the greatest one; a value that is no number is neither, and passes.
-/

namespace Scholia

/-! ## Computations that can fail -/

namespace Fallible

variable {ε ε' α β : Type}

/-- One after the other succeeds if both do. -/
theorem bind_eq_ok {first : Except ε α} {next : α → Except ε β} {value : β} :
    first >>= next = .ok value ↔ ∃ found, first = .ok found ∧ next found = .ok value := by
  cases first with
  | error fault => exact ⟨nofun, fun ⟨_, absurd, _⟩ => nomatch absurd⟩
  | ok found => exact ⟨fun done => ⟨found, rfl, done⟩, fun ⟨_, same, done⟩ => by cases same; exact done⟩

theorem map_eq_ok {first : Except ε α} {convert : α → β} {value : β} :
    first.map convert = .ok value ↔ ∃ found, first = .ok found ∧ convert found = value := by
  cases first with
  | error fault => exact ⟨nofun, fun ⟨_, absurd, _⟩ => nomatch absurd⟩
  | ok found => simp [Except.map]

/-- Another wording of a fault is none for what succeeds. -/
theorem mapError_eq_ok {first : Except ε α} {reword : ε → ε'} {value : α} :
    first.mapError reword = .ok value ↔ first = .ok value := by
  cases first with
  | error fault => exact ⟨nofun, nofun⟩
  | ok found => exact ⟨fun same => by cases same; rfl, fun same => by cases same; rfl⟩

end Fallible

/-! ## Bounds -/

namespace Binary64

variable {x y : Float}

theorem le_of_lt_eq_false (xs : isNaN x = false) (ys : isNaN y = false) (less : lt x y = false) :
    le y x = true := by
  rw [lt, xs, ys, Bool.not_false, Bool.and_self, Bool.true_and, decide_eq_false_iff_not] at less
  rw [le, xs, ys, Bool.not_false, Bool.and_self, Bool.true_and, decide_eq_true_eq]
  omega

theorem isNaN_of_le (least : le x y = true) : isNaN x = false ∧ isNaN y = false := by
  simp only [le, Bool.and_eq_true, Bool.not_eq_true'] at least
  exact least.1

end Binary64

namespace Ini

/-! ## Texts without references -/

theorem expand_plain {file : File} {name option : String} {raw text : Text} {depth : Nat}
    (plain : '%' ∉ text) : expand file name option raw depth text = .ok text := by
  induction text with
  | nil => rw [expand]
  | cons c rest ih =>
      rw [List.mem_cons, not_or] at plain
      obtain ⟨first, plain⟩ := plain
      rw [expand, ih plain]
      · rfl
      · rintro - rfl -
        exact first rfl
      · rintro rfl
        exact first rfl

/-- No value of a file refers to another. -/
def File.isPlain (file : File) : Bool :=
  (file.defaults :: file.sections.map (·.2)).all fun options =>
    options.all fun entry => !entry.2.contains '%'

theorem File.value?_of_isPlain {file : File} (plain : file.isPlain = true) (name option : String) :
    file.value? name option = .ok (file.raw? name option) := by
  have clear : ∀ options ∈ file.defaults :: file.sections.map (·.2), ∀ raw,
      options.get? option = some raw → '%' ∉ raw := by
    intro options inside raw found
    have clear := List.all_eq_true.mp (List.all_eq_true.mp plain options inside) _
      (Table.mem_of_get? found)
    simpa using clear
  unfold value?
  cases found : file.raw? name option with
  | none => rfl
  | some raw =>
      dsimp only
      rw [expand_plain, Except.map]
      unfold raw? at found
      split at found
      · cases found
      · next options section_ =>
        rcases Option.or_eq_some_iff.mp found with own | ⟨-, shared⟩
        · exact clear options (List.mem_cons_of_mem _
            (List.mem_map_of_mem (Table.mem_of_get? section_))) raw own
        · exact clear _ List.mem_cons_self raw shared

end Ini

namespace Settings

variable {α : Type}

/-! ## Bounds -/

/-- A number keeps its bounds, given which number is at most which. -/
structure Range.Holds (le : α → α → Prop) (range : Range α) (value : α) : Prop where
  least : ∀ least ∈ range.least, le least value
  greatest : ∀ greatest ∈ range.greatest, le value greatest

/-- An integer is within the bounds of its option. -/
def Bounded.Holds (option : Bounded Int) (value : Int) : Prop :=
  option.range.Holds (· ≤ ·) value

/-- A floating-point number is within the bounds of its option. -/
def Bounded.HoldsFloat (option : Bounded Float) (value : Float) : Prop :=
  option.range.Holds (fun x y => Binary64.le x y = true) value

namespace Range

variable {lt : α → α → Bool} {text : α → String} {name key : String} {range : Range α}
  {value result : α}

theorem check_eq_ok (checked : range.check lt text name key value = .ok result) :
    result = value ∧ range.admits lt value = true := by
  unfold check at checked
  unfold admits
  split at checked
  · cases checked
  · cases checked
  · next below above =>
    cases checked
    rw [Option.filter_eq_none_iff] at below above
    refine ⟨rfl, Bool.and_eq_true_iff.mpr ⟨?_, ?_⟩⟩
    · rw [Option.all_eq_true]
      intro least same
      simpa using below least same
    · rw [Option.all_eq_true]
      intro greatest same
      simpa using above greatest same

theorem holds_of_admits {range : Range Int} {value : Int}
    (admitted : range.admits (fun a b => decide (a < b)) value = true) :
    range.Holds (· ≤ ·) value := by
  simp only [admits, Bool.and_eq_true, Option.all_eq_true, Bool.not_eq_true',
    decide_eq_false_iff_not, Int.not_lt] at admitted
  exact ⟨admitted.1, admitted.2⟩

/-- A range has a least number, and its bounds are numbers. -/
def isSolid (range : Range Float) : Bool :=
  range.least.any (fun least => !Binary64.isNaN least) &&
    range.greatest.all (fun greatest => !Binary64.isNaN greatest)

/-- Of the values that pass, those that are numbers keep the bounds. -/
theorem holds_iff_of_admits {range : Range Float} {value : Float} (solid : range.isSolid = true)
    (admitted : range.admits Binary64.lt value = true) :
    range.Holds (fun x y => Binary64.le x y = true) value ↔ Binary64.isNaN value = false := by
  simp only [isSolid, Bool.and_eq_true, Option.any_eq_true, Option.all_eq_true,
    Bool.not_eq_true'] at solid
  simp only [admits, Bool.and_eq_true, Option.all_eq_true, Bool.not_eq_true'] at admitted
  obtain ⟨⟨least, has, number⟩, numbers⟩ := solid
  constructor
  · intro holds
    exact (Binary64.isNaN_of_le (holds.least least has)).2
  · intro proper
    refine ⟨fun other same => ?_, fun greatest same => ?_⟩
    · cases has.symm.trans same
      exact Binary64.le_of_lt_eq_false proper number (admitted.1 _ has)
    · exact Binary64.le_of_lt_eq_false (numbers greatest same) proper (admitted.2 _ same)

end Range

/-! ## What a section gives -/

/-- The number that stands for an option: the one that the text in the file says, or, if there is no
    text, a default. All numbers are fine in some sense. -/
structure Sound (read? : Text → Option α) (fine : α → Prop) (file : Ini.File) (name key : String)
    (value : Option α) : Prop where
  fine : ∀ number ∈ value, fine number
  converted : ∀ raw, file.value? name key = .ok (some raw) → ∃ number, read? raw = some number ∧
    value = some number

/-- Any text that is given can be read, as a fine number. -/
theorem Sound.reads {read? : Text → Option α} {fine : α → Prop} {file : Ini.File}
    {name key : String} {value : Option α} (sound : Sound read? fine file name key value)
    {raw : Text} (given : file.value? name key = .ok (some raw)) :
    ∃ number, read? raw = some number ∧ fine number := by
  obtain ⟨number, reads, same⟩ := sound.converted raw given
  exact ⟨number, reads, sound.fine number same⟩

/-- An integer that was read, and keeps its bounds. -/
abbrev SoundInt (file : Ini.File) (name : String) (option : Bounded Int) : Option Int → Prop :=
  Sound Numeral.readInt? option.Holds file name option.key

/-- A floating-point number that was read, and keeps its bounds unless it is no number. -/
abbrev SoundFloat (file : Ini.File) (name : String) (option : Bounded Float) :
    Option Float → Prop :=
  Sound Numeral.readFloat? (fun x => option.HoldsFloat x ↔ Binary64.isNaN x = false) file name
    option.key

namespace Reader

variable {file : Ini.File} {name type : String} {read? : Text → Option α} {lt : α → α → Bool}
  {text : α → String} {option : Bounded α} {result default : Option α} {fine : α → Prop}

/-- An option that was read is sound if all that pass the check are fine, and so is the default. -/
theorem sound_of_number? (read : number? read? type lt text ⟨file, name⟩ option = .ok result)
    (passes : ∀ number, option.range.admits lt number = true → fine number)
    (defaults : ∀ number ∈ default, fine number) :
    Sound read? fine file name option.key (result.or default) := by
  unfold number? at read
  obtain ⟨given, found, read⟩ := Fallible.bind_eq_ok.mp read
  have found := Fallible.mapError_eq_ok.mp found
  cases given with
  | none =>
      cases read
      exact ⟨defaults, fun raw other => by rw [found] at other; cases other⟩
  | some raw =>
      dsimp only at read
      split at read
      · cases read
      · next number reads =>
        obtain ⟨checked, kept, same⟩ := Fallible.map_eq_ok.mp read
        obtain ⟨rfl, admitted⟩ := Range.check_eq_ok kept
        subst same
        refine ⟨fun number same => ?_, fun other same => ?_⟩
        · cases same
          exact passes _ admitted
        · rw [found] at same
          cases same
          exact ⟨_, reads, rfl⟩

theorem sound_of_int? {option : Bounded Int} {result default : Option Int}
    (read : int? ⟨file, name⟩ option = .ok result)
    (defaults : default.all (option.range.admits fun a b => decide (a < b)) = true) :
    SoundInt file name option (result.or default) :=
  sound_of_number? read (fun _ => Range.holds_of_admits) fun n same =>
    Range.holds_of_admits ((Option.all_eq_true _ _).mp defaults n same)

theorem sound_of_float? {option : Bounded Float} {result default : Option Float}
    (read : float? ⟨file, name⟩ option = .ok result) (solid : option.range.isSolid = true)
    (defaults : default.all (option.range.admits Binary64.lt) = true) :
    SoundFloat file name option (result.or default) :=
  sound_of_number? read (fun _ => Range.holds_iff_of_admits solid) fun x same =>
    Range.holds_iff_of_admits solid ((Option.all_eq_true _ _).mp defaults x same)

end Reader

end Settings

end Scholia
