import Scholia.Table
import Scholia.Text.Basic
import Scholia.Text.Quoted
import Scholia.Unicode.Classes

/-! # Text templates

A template is a text with names between braces, which are replaced by values. A brace itself is
written twice.
-/

namespace Scholia.Template

/-- Why a template cannot be filled. -/
inductive Fault where
  | loneOpen
  | loneClose
  | unclosed
  | nestedOpen
  | missing (name : String)
  | noPosition (index : Nat)
  | tooManyDigits
  deriving Repr, DecidableEq

def Fault.message : Fault → String
  | loneOpen => "Single '\x7b' encountered in format string"
  | loneClose => "Single '\x7d' encountered in format string"
  | unclosed => "expected '\x7d' before end of string"
  | nestedOpen => "unexpected '\x7b' in field name"
  | missing name => quote name
  | noPosition index => s!"Replacement index {index} out of range for positional args tuple"
  | tooManyDigits => "Too many decimal digits in format string"

/-- The greatest index of a hole. -/
def maxIndex : Nat := 9223372036854775807

/-- The index that a hole of digits stands for, given that of the digits before these; a hole
    without name stands for the first index. -/
def position? (index : Nat) : Text → Except Fault (Option Nat)
  | [] => .ok (some index)
  | c :: rest =>
    match Unicode.digitValue? c with
    | none => .ok none
    | some digit =>
      let index := 10 * index + digit
      if maxIndex < index then .error .tooManyDigits else position? index rest

/-- The value for a name between braces. -/
def value (values : Table String) (name : Text) : Except Fault Text := do
  match ← position? 0 name with
  | some index => .error (.noPosition index)
  | none =>
    match values.get? (String.ofList name) with
    | some value => .ok value.toList
    | none => .error (.missing (String.ofList name))

mutual

def fill (values : Table String) : Text → Except Fault Text
  | [] => .ok []
  | '\x7b' :: '\x7b' :: rest => return '\x7b' :: (← fill values rest)
  | '\x7d' :: '\x7d' :: rest => return '\x7d' :: (← fill values rest)
  | ['\x7b'] => .error .loneOpen
  | '\x7d' :: _ => .error .loneClose
  | '\x7b' :: rest => hole values [] rest
  | c :: rest => return c :: (← fill values rest)

/-- The text from inside a hole on, whose name so far is given in reverse. -/
def hole (values : Table String) (name : Text) : Text → Except Fault Text
  | [] => .error .unclosed
  | '\x7b' :: _ => .error .nestedOpen
  | '\x7d' :: rest => do
    let start ← value values name.reverse
    return start ++ (← fill values rest)
  | c :: rest => hole values (c :: name) rest

end

end Scholia.Template
