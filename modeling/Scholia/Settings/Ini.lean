import Scholia.Path
import Scholia.Table
import Scholia.Text.Basic
import Scholia.Text.Lines
import Scholia.Text.Quoted
import Scholia.Unicode.Case

/-! # Settings files

A file has sections of options. The option names are in lower case, a value may go on over
indented lines, and the options of the default section belong to every section. A value may refer
to other options of its section by `%(name)s`; a percent sign itself is written twice.
-/

namespace Scholia.Ini

/-- A value by its lines. -/
abbrev Lines := List Text

/-- The name of the section whose options belong to every section. -/
def defaultSection : String := "DEFAULT"

/-- A settings file. -/
structure File where
  defaults : Table Text := []
  sections : Table (Table Text) := []

/-- What is wrong with a file or a value in it. -/
inductive Fault where
  | missingHeader (line : Nat) (text : Text)
  | unreadable (lines : List (Nat × Text))
  | duplicateSection (line : Nat) (name : String)
  | duplicateOption (line : Nat) (name option : String)
  | badReference (rest : Text)
  | badPercent (rest : Text)
  | missingOption (name option reference : String) (raw : Text)
  | tooDeep (name option : String) (raw : Text)
  deriving Repr, DecidableEq

/-- How deep references may be nested. -/
def maxDepth : Nat := 10

private def shown (text : Text) : String :=
  String.ofList (Text.quoted text)

/-- A line number of at least two characters. -/
private def lineLabel (line : Nat) : String :=
  if line < 10 then s!"[line  {line}]" else s!"[line {line}]"

private def fileLabel (path : Path) : String :=
  "PosixPath(" ++ quote path.toString ++ ")"

/-- The message of a fault in the file at a path. -/
def Fault.message (path : Path) : Fault → String
  | missingHeader line text =>
    s!"File contains no section headers.\nfile: {fileLabel path}, line: {line}\n{shown text}"
  | unreadable lines =>
    let entries := lines.map fun (line, text) => s!"\n\t{lineLabel line}: {shown text}"
    s!"Source contains parsing errors: {fileLabel path}" ++ String.join entries
  | duplicateSection line name =>
    let place := s!"While reading from {fileLabel path} {lineLabel line}"
    s!"{place}: section {quote name} already exists"
  | duplicateOption line name option =>
    let place := s!"While reading from {fileLabel path} {lineLabel line}"
    s!"{place}: option {quote option} in section {quote name} already exists"
  | badReference rest => s!"bad interpolation variable reference {shown rest}"
  | badPercent rest => s!"'%' must be followed by '%' or '(', found: {shown rest}"
  | missingOption name option reference raw =>
    s!"Bad value substitution: option {quote option} in section {quote name} contains an " ++
      s!"interpolation key {quote reference} which is not a valid option name. " ++
      s!"Raw value: {shown raw}"
  | tooDeep name option raw =>
    s!"Recursion limit exceeded in value substitution: option {quote option} in section " ++
      s!"{quote name} contains an interpolation key which cannot be substituted in " ++
      s!"{maxDepth} steps. Raw value: {shown raw}"

/-! ## Reading -/

/-- The text with every line ending as a line feed. -/
def unifyNewlines : Text → Text
  | '\r' :: '\n' :: rest => '\n' :: unifyNewlines rest
  | '\r' :: rest => '\n' :: unifyNewlines rest
  | c :: rest => c :: unifyNewlines rest
  | [] => []

def linesWithEnds : Text → List Text
  | [] => []
  | c :: rest =>
    if c = '\n' then ['\n'] :: linesWithEnds rest
    else
      match linesWithEnds rest with
      | [] => [[c]]
      | line :: lines => (c :: line) :: lines

/-- How far a file has been read. -/
structure Reading where
  defaults : Table Lines := []
  sections : Table (Table Lines) := []
  /-- The section that options go to. -/
  current : Option String := none
  /-- The option that indented lines go to. -/
  option : Option String := none
  indent : Nat := 0
  /-- The lines that are neither header nor option. -/
  unreadable : List (Nat × Text) := []

namespace Reading

def optionsOf (reading : Reading) (name : String) : Table Lines :=
  if name = defaultSection then reading.defaults else (reading.sections.get? name).getD []

def setOptions (reading : Reading) (name : String) (options : Table Lines) : Reading :=
  if name = defaultSection then { reading with defaults := options }
  else { reading with sections := reading.sections.set name options }

/-- The section and the option that a line without header or option of its own continues. -/
def continued? (reading : Reading) : Option (String × String) :=
  match reading.current, reading.option with
  | some name, some option => if option = "" then none else some (name, option)
  | _, _ => none

def addLine (reading : Reading) (name option : String) (line : Text) : Reading :=
  let options := reading.optionsOf name
  reading.setOptions name (options.set option ((options.get? option).getD [] ++ [line]))

/-- The name in a section header: all between the first and the last bracket. -/
def header? (value : Text) : Option String :=
  match value with
  | '[' :: rest =>
    let name := ((rest.reverse.dropWhile (· != ']')).drop 1).reverse
    if name.isEmpty then none else some (String.ofList name)
  | _ => none

/-- A character that stands between an option and its value. -/
def isDelimiter (c : Char) : Bool :=
  c == '=' || c == ':'

/-- The name of an option and its value. -/
def option? (value : Text) : Option (String × Text) :=
  match value.span fun c => !isDelimiter c with
  | (_, []) => none
  | (name, _ :: rest) =>
    some (Unicode.lower (String.ofList (Text.trimEnd name)), Text.trim rest)

def startSection (reading : Reading) (number : Nat) (name : String) : Except Fault Reading :=
  if (reading.sections.get? name).isSome then .error (.duplicateSection number name)
  else
    let started :=
      if name = defaultSection then reading
      else { reading with sections := reading.sections.set name [] }
    .ok { started with current := some name, option := none }

/-- Note a line that cannot be read. -/
def noteUnreadable (reading : Reading) (number : Nat) (line : Text) : Reading :=
  { reading with unreadable := reading.unreadable ++ [(number, line)] }

/-- Start an option of the current section. An empty name is noted as an error. -/
def startOption (reading : Reading) (section_ : String) (number : Nat) (line : Text)
    (name : String) (value : Text) : Except Fault Reading :=
  let reading := if name = "" then reading.noteUnreadable number line else reading
  let options := reading.optionsOf section_
  if (options.get? name).isSome then .error (.duplicateOption number section_ name)
  else .ok { reading.setOptions section_ (options.set name [value]) with option := some name }

def isComment (value : Text) : Bool :=
  value.head? == some '#' || value.head? == some ';'

def readLine (reading : Reading) (number : Nat) (line : Text) : Except Fault Reading :=
  let value := Text.trim line
  if isComment value then .ok reading
  else if value.isEmpty then
    match reading.continued? with
    | some (name, option) => .ok (reading.addLine name option [])
    | none => .ok reading
  else
    let indent := (line.takeWhile Text.isBlank).length
    match reading.continued?, decide (reading.indent < indent) with
    | some (name, option), true => .ok (reading.addLine name option value)
    | _, _ =>
      let reading := { reading with indent }
      match header? value, reading.current with
      | some name, _ => reading.startSection number name
      | none, none => .error (.missingHeader number line)
      | none, some section_ =>
        match option? value with
        | some (name, value) => reading.startOption section_ number line name value
        | none => .ok (reading.noteUnreadable number line)

/-- Read lines from a line number on. -/
def readLines (reading : Reading) (number : Nat) : List Text → Except Fault Reading
  | [] => .ok reading
  | line :: lines => do (← reading.readLine number line).readLines (number + 1) lines

/-- The values with their lines put together and the blanks at the end dropped. -/
def values (options : Table Lines) : Table Text :=
  options.map fun (name, lines) => (name, Text.trimEnd (Text.joinLines lines))

def finish (reading : Reading) : Except Fault File :=
  if reading.unreadable.isEmpty then
    .ok
      { defaults := values reading.defaults
        sections := reading.sections.map fun (name, options) => (name, values options) }
  else .error (.unreadable reading.unreadable)

end Reading

def File.read (text : Text) : Except Fault File := do
  (← Reading.readLines {} 1 (linesWithEnds (unifyNewlines text))).finish

/-! ## Looking up values -/

/-- The value of an option as written, the section's own before the default one. -/
def File.raw? (file : File) (name option : String) : Option Text :=
  match file.sections.get? name with
  | none => none
  | some options => (options.get? option).or (file.defaults.get? option)

/-- Take a reference off the front of what follows a percent sign: `(name)s`. -/
def reference? : Text → Option (String × Text)
  | '(' :: body =>
    let name := body.takeWhile (· != ')')
    match body.dropWhile (· != ')') with
    | ')' :: 's' :: rest =>
      if name.isEmpty then none else some (Unicode.lower (String.ofList name), rest)
    | _ => none
  | _ => none

/-- The end of a reference is shorter than its text. -/
theorem reference?_length {text rest : Text} {name : String}
    (h : reference? text = some (name, rest)) : rest.length < text.length := by
  unfold reference? at h
  split at h
  · rename_i body
    have bound := (List.dropWhile_sublist (l := body) (· != ')')).length_le
    simp only at h
    split at h
    · rename_i tail heq
      rw [heq] at bound
      split at h
      · simp at h
      · simp only [Option.some.injEq, Prod.mk.injEq] at h
        rw [← h.2]
        simp only [List.length_cons] at bound ⊢
        omega
    · simp at h
  · simp at h

/-- A value with its references replaced, `depth` more of them being allowed one inside the
    other; `raw` is the value that the look-up started from. -/
def expand (file : File) (name option : String) (raw : Text) (depth : Nat) (text : Text) :
    Except Fault Text :=
  match text with
  | [] => .ok []
  | '%' :: '%' :: rest => return '%' :: (← expand file name option raw depth rest)
  | '%' :: rest =>
    if rest.head? = some '(' then
      match _h : reference? rest with
      | none => .error (.badReference ('%' :: rest))
      | some (reference, rest) =>
        match file.raw? name reference with
        | none => .error (.missingOption name option reference raw)
        | some value =>
          if value.contains '%' then
            match depth with
            | 0 => .error (.tooDeep name option raw)
            | depth + 1 => do
              let value ← expand file name option raw depth value
              return value ++ (← expand file name option raw (depth + 1) rest)
          else
            return value ++ (← expand file name option raw depth rest)
    else .error (.badPercent ('%' :: rest))
  | c :: rest => return c :: (← expand file name option raw depth rest)
termination_by (depth, text.length)
decreasing_by
  all_goals simp_wf
  all_goals first
    | (right; omega)
    | (left; omega)
    | exact Prod.Lex.right _ (Nat.lt_succ_of_lt (reference?_length _h))

/-- The value of an option, if there is one. -/
def File.value? (file : File) (name option : String) : Except Fault (Option Text) :=
  match file.raw? name option with
  | none => .ok none
  | some raw => (expand file name option raw (maxDepth - 1) raw).map some

end Scholia.Ini
