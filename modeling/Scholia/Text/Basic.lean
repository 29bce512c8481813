/-! # Text and its blanks

Text that is taken apart character by character is a list of characters. Blanks are the white
space of every script, line breaks included, and the four information separators. Numbers have
only blanks around them that are no information separators. Characters are Unicode scalar values:
lone surrogates, which replies in JSON may hold, are left out.
-/

namespace Scholia

/-- A text taken apart into its characters. -/
abbrev Text := List Char

namespace Text

/-- White space of any script, line breaks and the four information separators. -/
def isBlank (c : Char) : Bool :=
  let n := c.toNat
  (0x09 ≤ n && n ≤ 0x0D) || (0x1C ≤ n && n ≤ 0x20) || n == 0x85 || n == 0xA0 || n == 0x1680 ||
    (0x2000 ≤ n && n ≤ 0x200A) || n == 0x2028 || n == 0x2029 || n == 0x202F || n == 0x205F ||
    n == 0x3000

/-- A blank that separates no information. -/
def isSpacing (c : Char) : Bool :=
  isBlank c && !(0x1C ≤ c.toNat && c.toNat ≤ 0x1F)

/-- The text consists of blanks only. -/
def isBlankText (text : Text) : Bool :=
  text.all isBlank

def trimStart (text : Text) : Text :=
  text.dropWhile isBlank

def trimEnd (text : Text) : Text :=
  (text.reverse.dropWhile isBlank).reverse

def trim (text : Text) : Text :=
  trimEnd (trimStart text)

/-- Drop the characters with a property at both ends. -/
def trimWhere (drop : Char → Bool) (text : Text) : Text :=
  ((text.dropWhile drop).reverse.dropWhile drop).reverse

/-- Drop the characters of a set at both ends. -/
def trimChars (chars : List Char) (text : Text) : Text :=
  trimWhere chars.contains text

/-- Replace every run of blanks by one space. -/
def collapseBlanks : Text → Text
  | [] => []
  | c :: rest =>
    if isBlank c then
      match rest with
      | d :: _ => if isBlank d then collapseBlanks rest else ' ' :: collapseBlanks rest
      | [] => [' ']
    else
      c :: collapseBlanks rest

/-! ## Parts of a text -/

/-- The second text starts with the first. -/
def startsWith (start text : Text) : Bool :=
  start.isPrefixOf text

/-- The second text ends with the first. -/
def endsWith (ending text : Text) : Bool :=
  ending.isSuffixOf text

/-- The first text occurs somewhere in the second. -/
def occursIn (part : Text) : Text → Bool
  | [] => part.isEmpty
  | c :: rest => part.isPrefixOf (c :: rest) || occursIn part rest

/-- The text without its last `count` characters. -/
def dropLast (count : Nat) (text : Text) : Text :=
  text.take (text.length - count)

/-- The first characters of a text; a negative count leaves that many off at the end. -/
def takeSigned (count : Int) (text : Text) : Text :=
  match count with
  | .ofNat n => text.take n
  | .negSucc n => dropLast (n + 1) text

end Text

end Scholia
