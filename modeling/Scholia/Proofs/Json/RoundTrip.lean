import Mathlib.Data.List.Basic
import Mathlib.Data.List.TakeDrop
import Mathlib.Tactic.IntervalCases
import Scholia.Json.Printer
import Scholia.Json.Reader

/-! # Values come back from their texts

A value that is written without spaces is read back from its text as it was, within limits that it
keeps to. The reader takes exactly the text of the value off the front of what it is given, as long
as something follows that ends a value. The text also bounds the number of steps: two for each of
its characters.
-/

namespace Scholia

/-! ## Decimal digits -/

namespace Binary64

theorem natText_of_lt {n : Nat} (small : n < 10) : natText n = [n.digitChar] :=
  Nat.toDigits_of_lt_base small

theorem natText_of_le {n : Nat} (great : 10 ≤ n) :
    natText n = natText (n / 10) ++ [(n % 10).digitChar] :=
  Nat.toDigits_of_base_le (by decide) great

theorem natText_ne_nil (n : Nat) : natText n ≠ [] :=
  List.length_pos_iff.mp Nat.length_toDigits_pos

theorem isDigit_of_mem_natText {n : Nat} {c : Char} (member : c ∈ natText n) : c.isDigit = true :=
  Nat.isDigit_of_mem_toDigits (by decide) (by decide) member

/-- A number of several digits does not begin with zero. -/
theorem head?_natText {n : Nat} (several : 1 < (natText n).length) :
    (natText n).head? ≠ some '0' := by
  induction n using Nat.strongRecOn with
  | _ n ih =>
      by_cases small : n < 10
      · rw [natText_of_lt small] at several
        cases Nat.lt_irrefl 1 several
      · have great : 10 ≤ n := Nat.not_lt.mp small
        rw [natText_of_le great, List.head?_append_of_ne_nil _ (natText_ne_nil _)]
        by_cases two : n / 10 < 10
        · rw [natText_of_lt two]
          have positive : 0 < n / 10 := Nat.div_pos great (by decide)
          interval_cases n / 10 <;> decide
        · refine ih _ (Nat.div_lt_self (by omega) (by decide)) ?_
          rw [natText_of_le (Nat.not_lt.mp two), List.length_append]
          have some := List.length_pos_iff.mpr (natText_ne_nil (n / 10 / 10))
          simp only [List.length_singleton]
          omega

end Binary64

namespace Numeral

theorem toNat_digitChar {n : Nat} (small : n < 10) : n.digitChar.toNat - 48 = n := by
  interval_cases n <;> rfl

theorem ofDigits_append (values : List Nat) (value : Nat) :
    ofDigits (values ++ [value]) = 10 * ofDigits values + value :=
  List.foldl_append

/-- A number is read back from its digits. -/
theorem ofDigits_natText (n : Nat) :
    ofDigits ((Binary64.natText n).map fun c => c.toNat - 48) = n := by
  induction n using Nat.strongRecOn with
  | _ n ih =>
      by_cases small : n < 10
      · rw [Binary64.natText_of_lt small, List.map_singleton, toNat_digitChar small]
        exact Nat.zero_add n
      · have great : 10 ≤ n := Nat.not_lt.mp small
        rw [Binary64.natText_of_le great, List.map_append, List.map_singleton, ofDigits_append,
          ih _ (Nat.div_lt_self (by omega) (by decide)),
          toNat_digitChar (Nat.mod_lt _ (by decide))]
        omega

end Numeral

namespace Json

/-! ## Texts inside a text -/

theorem hexValue?_hexDigit {n : Nat} (small : n < 16) : hexValue? (Text.hexDigit n) = some n := by
  interval_cases n <;> rfl

theorem readHex4?_hexDigits {n : Nat} (small : n < 0x10000) (rest : Text) :
    readHex4? (Text.hexDigits 4 n ++ rest) = some (n, rest) := by
  have digit (k : Nat) : hexValue? (Text.hexDigit (k % 16)) = some (k % 16) :=
    hexValue?_hexDigit (Nat.mod_lt _ (by decide))
  simp only [Text.hexDigits, List.nil_append, List.cons_append, readHex4?, digit,
    Option.bind_eq_bind, Option.bind_some, Option.pure_def, Option.some.injEq, Prod.mk.injEq, and_true]
  omega

/-- A character comes back from the way it is written inside a text. -/
theorem readText?_escapeChar (c : Char) (fuel : Nat) (seen rest : Text) :
    readText? (fuel + 1) seen (escapeChar .compact c ++ rest) = readText? fuel (c :: seen) rest := by
  have same : Char.ofNat c.toNat = c := Char.ofNat_toNat c
  by_cases quote : c = '"'
  · subst quote; rfl
  by_cases slash : c = '\\'
  · subst slash; rfl
  by_cases feed : c = '\n'
  · subst feed; rfl
  by_cases carriage : c = '\r'
  · subst carriage; rfl
  by_cases tab : c = '\t'
  · subst tab; rfl
  by_cases page : c.toNat = 0x0C
  · rw [page] at same; subst same; rfl
  by_cases back : c.toNat = 0x08
  · rw [back] at same; subst same; rfl
  have plain : escapeChar .compact c = if 0x20 ≤ c.toNat then [c] else escapeUnits c := by
    simp [escapeChar, shortEscape?, Form.compact, quote, slash, feed, carriage, tab, page, back]
  rw [plain]
  split
  · next bare => simp [readText?, quote, slash, Nat.not_lt.mpr bare]
  · next low =>
    have unit := readHex4?_hexDigits (show c.toNat < 0x10000 by omega) rest
    have escaped : readEscapedUnit? (Text.hexDigits 4 c.toNat ++ rest) = some (c, rest) := by
      simp [readEscapedUnit?, unit, same, show ¬(0xD800 ≤ c.toNat ∧ c.toNat < 0xDC00) by omega,
        show ¬(0xDC00 ≤ c.toNat ∧ c.toNat < 0xE000) by omega]
    simp [escapeUnits, escapeUnit, readText?, escaped, show c.toNat < 0x10000 by omega]

theorem readText?_escaped (text seen : Text) {fuel : Nat} (enough : text.length < fuel)
    (rest : Text) : readText? fuel seen (text.flatMap (escapeChar .compact) ++ '"' :: rest) =
      some (String.ofList (seen.reverse ++ text), rest) := by
  induction text generalizing seen fuel with
  | nil =>
      obtain ⟨fuel, rfl⟩ := Nat.exists_eq_succ_of_ne_zero (Nat.ne_of_gt enough)
      simp [readText?]
  | cons c text ih =>
      obtain ⟨fuel, rfl⟩ := Nat.exists_eq_succ_of_ne_zero (Nat.ne_of_gt (Nat.zero_lt_of_lt enough))
      rw [List.flatMap_cons, List.append_assoc, readText?_escapeChar,
        ih (c :: seen) (Nat.lt_of_succ_lt_succ enough)]
      simp

/-! ## Numbers -/

/-- What may follow a value: the end of all, or what ends an item or a field. -/
def Ended (rest : Text) : Prop :=
  rest = [] ∨ ∃ tail, rest = ',' :: tail ∨ rest = ']' :: tail ∨ rest = '\x7d' :: tail

theorem spanDigits_append {digits rest : Text} (decimal : ∀ c ∈ digits, c.isDigit = true)
    (ended : Ended rest) : spanDigits (digits ++ rest) = (digits, rest) := by
  have stop : rest.takeWhile Char.isDigit = [] ∧ rest.dropWhile Char.isDigit = rest := by
    rcases ended with rfl | ⟨tail, rfl | rfl | rfl⟩ <;> exact ⟨rfl, rfl⟩
  rw [spanDigits, List.span_eq_takeWhile_dropWhile, List.takeWhile_append_of_pos decimal,
    List.dropWhile_append_of_pos decimal, stop.1, stop.2, List.append_nil]

theorem readExponent?_ended {rest : Text} (ended : Ended rest) :
    readExponent? rest = some (none, rest) := by
  rcases ended with rfl | ⟨tail, rfl | rfl | rfl⟩ <;> rfl

theorem readUnsigned?_natText {length n : Nat} (negative : Bool) {rest : Text}
    (short : (Binary64.natText n).length + (if negative then 1 else 0) ≤ length)
    (few : (Binary64.natText n).length ≤ Numeral.maxIntegerDigits) (ended : Ended rest) :
    readUnsigned? length negative (Binary64.natText n ++ rest) =
      some (int (if negative then -n else n), rest) := by
  have digits := spanDigits_append (fun _ => Binary64.isDigit_of_mem_natText (n := n)) ended
  have whole : ((Binary64.natText n).isEmpty ||
      (1 < (Binary64.natText n).length && (Binary64.natText n).head? == some '0')) = false := by
    rw [Bool.or_eq_false_iff, List.isEmpty_eq_false_iff]
    refine ⟨Binary64.natText_ne_nil n, ?_⟩
    by_cases several : 1 < (Binary64.natText n).length
    · simp [Binary64.head?_natText several]
    · simp [several]
  have read := readExponent?_ended ended
  unfold readUnsigned?
  simp only [digits, whole, Bool.false_eq_true, if_false, Nat.not_lt.mpr short]
  rcases ended with rfl | ⟨tail, rfl | rfl | rfl⟩ <;>
  simp [read, Numeral.ofDigits_natText, Nat.not_lt.mpr few]

theorem readNumber?_intText {length : Nat} {n : Int} {rest : Text}
    (short : (Binary64.intText n).length ≤ length)
    (few : (Binary64.natText n.natAbs).length ≤ Numeral.maxIntegerDigits) (ended : Ended rest) :
    readNumber? length (Binary64.intText n ++ rest) = some (int n, rest) := by
  obtain ⟨c, digits, same⟩ := List.exists_cons_of_ne_nil (Binary64.natText_ne_nil n.natAbs)
  have decimal : c.isDigit = true :=
    Binary64.isDigit_of_mem_natText (n := n.natAbs) (by rw [same]; exact List.mem_cons_self)
  have notI : c ≠ 'I' := by rintro rfl; cases decimal
  have notN : c ≠ 'N' := by rintro rfl; cases decimal
  have notMinus : c ≠ '-' := by rintro rfl; cases decimal
  unfold Binary64.intText at short ⊢
  split
  · next negative =>
    rw [if_pos negative] at short
    have read := readUnsigned?_natText true (by simpa using short) few ended
    rw [same] at read ⊢
    have number : (if true then -(n.natAbs : Int) else n.natAbs) = n := by
      rw [if_pos rfl]
      omega
    rw [number] at read
    simpa [readNumber?, notI] using read
  · next positive =>
    rw [if_neg positive] at short
    have read := readUnsigned?_natText false (by simpa using short) few ended
    rw [same] at read ⊢
    have number : (if false then -(n.natAbs : Int) else n.natAbs) = n := by
      rw [if_neg Bool.false_ne_true]
      omega
    rw [number] at read
    simpa [readNumber?, notI, notN, notMinus] using read

/-! ## Values -/

mutual

/-- A value without floating-point numbers, without two fields of one name in an object, and within
    limits of length and depth. -/
def Legible (length depth : Nat) : Json → Prop
  | int value =>
    (Binary64.intText value).length ≤ length ∧
      (Binary64.natText value.natAbs).length ≤ Numeral.maxIntegerDigits
  | float _ => False
  | array items => items = [] ∨ 0 < depth ∧ ItemsLegible length (depth - 1) items
  | object fields =>
    fields = [] ∨ 0 < depth ∧ (fields.map (·.1)).Nodup ∧ FieldsLegible length (depth - 1) fields
  | _ => True

def ItemsLegible (length depth : Nat) : List Json → Prop
  | [] => True
  | item :: items => Legible length depth item ∧ ItemsLegible length depth items

def FieldsLegible (length depth : Nat) : List (String × Json) → Prop
  | [] => True
  | (_, value) :: fields => Legible length depth value ∧ FieldsLegible length depth fields

end

/-- The character is no blank. -/
def Inked (c : Char) : Prop :=
  (c == ' ' || c == '\n' || c == '\t' || c == '\r') = false

instance (c : Char) : Decidable (Inked c) :=
  inferInstanceAs (Decidable (_ = _))

theorem Inked.skipBlanks {c : Char} (inked : Inked c) (text : Text) :
    skipBlanks (c :: text) = c :: text :=
  List.dropWhile_cons_of_neg (Bool.eq_false_iff.mp inked)

/-- A number begins with this character. -/
def Numeric (c : Char) : Prop :=
  c = '-' ∨ c.isDigit = true

instance (c : Char) : Decidable (Numeric c) :=
  inferInstanceAs (Decidable (_ ∨ _))

theorem Numeric.ne {c other : Char} (numeric : Numeric c) (no : ¬Numeric other) : c ≠ other := by
  rintro rfl
  exact no numeric

theorem Numeric.inked {c : Char} (numeric : Numeric c) : Inked c := by
  simp only [Inked, Bool.or_eq_false_iff, beq_eq_false_iff_ne]
  exact ⟨⟨⟨numeric.ne (by decide), numeric.ne (by decide)⟩, numeric.ne (by decide)⟩,
    numeric.ne (by decide)⟩

theorem exists_intText (n : Int) : ∃ c rest, Binary64.intText n = c :: rest ∧ Numeric c := by
  obtain ⟨c, digits, same⟩ := List.exists_cons_of_ne_nil (Binary64.natText_ne_nil n.natAbs)
  unfold Binary64.intText
  split
  · exact ⟨'-', _, rfl, .inl rfl⟩
  · refine ⟨c, digits, same, .inr ?_⟩
    exact Binary64.isDigit_of_mem_natText (n := n.natAbs) (by rw [same]; exact List.mem_cons_self)

/-- The text of a value begins with neither a blank nor the end of an array. -/
theorem exists_writeCompact {length depth : Nat} {value : Json}
    (legible : Legible length depth value) :
    ∃ c rest, writeCompact value = c :: rest ∧ Inked c ∧ c ≠ ']' := by
  cases value with
  | null => exact ⟨'n', _, rfl, rfl, by decide⟩
  | bool b =>
      cases b with
      | true => exact ⟨'t', _, rfl, rfl, by decide⟩
      | false => exact ⟨'f', _, rfl, rfl, by decide⟩
  | int n =>
      obtain ⟨c, rest, same, numeric⟩ := exists_intText n
      exact ⟨c, rest, same, numeric.inked, numeric.ne (by decide)⟩
  | float x => exact False.elim legible
  | str text => exact ⟨'"', _, rfl, rfl, by decide⟩
  | array items => exact ⟨'[', _, rfl, rfl, by decide⟩
  | object fields => exact ⟨'\x7b', _, rfl, rfl, by decide⟩

/-- Joined texts begin as the first of them. -/
theorem exists_join_of_cons {first front : Text} {c : Char} (begins : first = c :: front)
    (texts : List Text) : ∃ rest, Text.join [','] (first :: texts) = c :: rest := by
  subst begins
  cases texts with
  | nil => exact ⟨front, List.intercalate_singleton⟩
  | cons second texts => exact ⟨_, List.intercalate_cons_cons⟩

theorem join_cons_cons (first second : Text) (texts : List Text) :
    Text.join [','] (first :: second :: texts) =
      first ++ ',' :: Text.join [','] (second :: texts) := by
  rw [Text.join, List.intercalate_cons_cons, List.append_assoc]
  rfl

theorem set_of_notMem {name : String} {value : Json} {fields : List (String × Json)}
    (new : name ∉ fields.map (·.1)) : Table.set name value fields = fields ++ [(name, value)] := by
  induction fields with
  | nil => rfl
  | cons field fields ih =>
      rw [List.map_cons, List.mem_cons, not_or] at new
      rw [Table.set, if_neg (Ne.symm new.1), ih new.2, List.cons_append]

theorem escapeChar_ne_nil (form : Form) (c : Char) : escapeChar form c ≠ [] := by
  unfold escapeChar shortEscape?
  split_ifs <;> simp [escapeUnits, escapeUnit]
  split_ifs <;> simp

theorem length_le_length_escaped (form : Form) (text : Text) :
    text.length ≤ (text.flatMap (escapeChar form)).length := by
  induction text with
  | nil => exact Nat.le_refl 0
  | cons c text ih =>
      have some := List.length_pos_iff.mpr (escapeChar_ne_nil form c)
      rw [List.flatMap_cons, List.length_append, List.length_cons]
      omega

theorem length_escapeText (form : Form) (text : String) : (escapeText form text).length =
    (text.toList.flatMap (escapeChar form)).length + 2 := by
  rw [escapeText, List.length_append, List.length_cons, List.length_singleton]

/-- A text is read back after its opening quote. -/
theorem readText?_escapeText {text : String} {fuel : Nat}
    (enough : (escapeText .compact text).length ≤ fuel + 1) (rest : Text) :
    readText? fuel [] (text.toList.flatMap (escapeChar .compact) ++ '"' :: rest) =
      some (text, rest) := by
  have least := length_le_length_escaped .compact text.toList
  rw [length_escapeText] at enough
  rw [readText?_escaped _ _ (by omega), List.reverse_nil, List.nil_append, String.ofList_toList]

theorem readValue?_of_numeric {length fuel depth : Nat} {c : Char} (numeric : Numeric c)
    (text : Text) : readValue? length (fuel + 1) depth (c :: text) =
      readNumber? length (c :: text) := by
  rw [readValue?, numeric.inked.skipBlanks]
  rcases numeric with rfl | digit
  · rfl
  · split <;> first | rfl | next same => cases same; cases digit

theorem writeCompact_str (text : String) : writeCompact (str text) =
    '"' :: (text.toList.flatMap (escapeChar .compact) ++ ['"']) := rfl

theorem writeCompact_array (items : List Json) : writeCompact (array items) =
    '[' :: (Text.join [','] (writeItems .compact items) ++ [']']) := rfl

theorem writeCompact_object (fields : List (String × Json)) : writeCompact (object fields) =
    '\x7b' :: (Text.join [','] (writeFields .compact fields) ++ ['\x7d']) := rfl

/-- The text of a field begins with the quote of its name. -/
theorem writeField_eq (name : String) (value : Json) :
    escapeText .compact name ++ Form.compact.colon ++ writeIn .compact value =
      '"' :: (name.toList.flatMap (escapeChar .compact) ++ '"' :: ':' :: writeCompact value) := by
  simp [escapeText, Form.compact, writeCompact]

/-- One field is read: then there is another one, or the object ends. -/
theorem readFields?_field {length depth fuel : Nat} (seen : List (String × Json)) {name : String}
    {value : Json} {rest : Text}
    (named : (escapeText .compact name).length ≤ fuel + 1)
    (read : readValue? length fuel depth (writeCompact value ++ rest) = some (value, rest)) :
    readFields? length (fuel + 1) depth seen
        ('"' :: (name.toList.flatMap (escapeChar .compact) ++ '"' :: ':' :: writeCompact value) ++
          rest) =
      match skipBlanks rest with
      | ',' :: rest => readFields? length fuel depth (Table.set name value seen) rest
      | '\x7d' :: rest => some (Table.set name value seen, rest)
      | _ => none := by
  have text := readText?_escapeText named (':' :: (writeCompact value ++ rest))
  rw [List.cons_append, List.append_assoc, List.cons_append, List.cons_append, readFields?,
    Inked.skipBlanks (by decide)]
  simp only [text, Option.bind_eq_bind, Option.bind_some]
  rw [Inked.skipBlanks (by decide)]
  exact congrArg (Option.bind · _) read

mutual

theorem readValue?_writeCompact {length depth : Nat} (fuel : Nat) (value : Json) (rest : Text)
    (legible : Legible length depth value) (enough : 2 * (writeCompact value).length ≤ fuel)
    (ended : Ended rest) :
    readValue? length fuel depth (writeCompact value ++ rest) = some (value, rest) := by
  obtain ⟨c, tail, same, -⟩ := exists_writeCompact legible
  obtain ⟨fuel, rfl⟩ : ∃ less, fuel = less + 1 := by
    rw [same, List.length_cons] at enough
    exact ⟨fuel - 1, by omega⟩
  cases value with
  | null => rfl
  | bool b => cases b <;> rfl
  | int n =>
      obtain ⟨c, tail, same, numeric⟩ := exists_intText n
      rw [show writeCompact (int n) = c :: tail from same, List.cons_append,
        readValue?_of_numeric numeric, ← List.cons_append, ← same]
      exact readNumber?_intText legible.1 legible.2 ended
  | float x => exact False.elim legible
  | str text =>
      have short : (escapeText .compact text).length ≤ fuel + 1 := by
        rw [show escapeText .compact text = writeCompact (str text) from rfl]
        omega
      have read := readText?_escapeText short rest
      rw [writeCompact_str, List.cons_append, List.append_assoc, List.singleton_append, readValue?,
        Inked.skipBlanks (by decide)]
      simp only [read, Option.map_some]
  | array items =>
      rw [writeCompact_array, List.length_cons, List.length_append, List.length_singleton] at enough
      rw [writeCompact_array, List.cons_append, List.append_assoc, List.singleton_append, readValue?,
        Inked.skipBlanks (by decide)]
      cases items with
      | nil => rfl
      | cons item items =>
          obtain ⟨deep, legible⟩ := legible.resolve_left (List.cons_ne_nil _ _)
          have read := readItems?_writeItems fuel item items rest legible (by omega)
          obtain ⟨c, front, begins, inked, opens⟩ := exists_writeCompact legible.1
          obtain ⟨tail, whole⟩ := exists_join_of_cons begins (writeItems .compact items)
          rw [writeItems, show writeIn .compact item = writeCompact item from rfl, whole,
            List.cons_append] at read ⊢
          simp only [inked.skipBlanks]
          simp [opens, Nat.ne_of_gt deep, read]
  | object fields =>
      rw [writeCompact_object, List.length_cons, List.length_append, List.length_singleton] at enough
      rw [writeCompact_object, List.cons_append, List.append_assoc, List.singleton_append, readValue?,
        Inked.skipBlanks (by decide)]
      cases fields with
      | nil => rfl
      | cons field fields =>
          obtain ⟨name, value⟩ := field
          obtain ⟨deep, distinct, legible⟩ := legible.resolve_left (List.cons_ne_nil _ _)
          have read := readFields?_writeFields fuel [] name value fields rest distinct legible
            (by omega)
          obtain ⟨tail, whole⟩ := exists_join_of_cons (writeField_eq name value)
            (writeFields .compact fields)
          rw [writeFields, whole, List.cons_append] at read ⊢
          have inked : Inked '"' := rfl
          simp only [inked.skipBlanks]
          simp [Nat.ne_of_gt deep, read]

theorem readItems?_writeItems {length depth : Nat} (fuel : Nat) (item : Json) (items : List Json)
    (rest : Text) (legible : ItemsLegible length depth (item :: items))
    (enough : 2 * (Text.join [','] (writeItems .compact (item :: items))).length < fuel) :
    readItems? length fuel depth
        (Text.join [','] (writeItems .compact (item :: items)) ++ ']' :: rest) =
      some (item :: items, rest) := by
  obtain ⟨fuel, rfl⟩ : ∃ less, fuel = less + 1 := ⟨fuel - 1, by omega⟩
  cases items with
  | nil =>
      have only : Text.join [','] (writeItems .compact [item]) = writeCompact item :=
        List.intercalate_singleton
      rw [only] at enough ⊢
      have read := readValue?_writeCompact fuel item (']' :: rest) legible.1 (by omega)
        (.inr ⟨rest, .inr (.inl rfl)⟩)
      rw [readItems?, read]
      rfl
  | cons second items =>
      rw [writeItems, writeItems, join_cons_cons, ← writeItems,
        show writeIn .compact item = writeCompact item from rfl] at enough ⊢
      rw [List.length_append, List.length_cons] at enough
      rw [List.append_assoc, List.cons_append]
      have first := readValue?_writeCompact fuel item
        (',' :: (Text.join [','] (writeItems .compact (second :: items)) ++ ']' :: rest)) legible.1
        (by omega) (.inr ⟨_, .inl rfl⟩)
      have others := readItems?_writeItems fuel second items rest legible.2 (by omega)
      rw [readItems?, first]
      simp only [Option.bind_eq_bind, Option.bind_some]
      rw [Inked.skipBlanks (by decide)]
      simp only [others, Option.bind_some, Option.pure_def]

theorem readFields?_writeFields {length depth : Nat} (fuel : Nat) (seen : List (String × Json))
    (name : String) (value : Json) (fields : List (String × Json)) (rest : Text)
    (distinct : ((seen ++ (name, value) :: fields).map (·.1)).Nodup)
    (legible : FieldsLegible length depth ((name, value) :: fields))
    (enough :
      2 * (Text.join [','] (writeFields .compact ((name, value) :: fields))).length < fuel) :
    readFields? length fuel depth seen
        (Text.join [','] (writeFields .compact ((name, value) :: fields)) ++ '\x7d' :: rest) =
      some (seen ++ (name, value) :: fields, rest) := by
  obtain ⟨fuel, rfl⟩ : ∃ less, fuel = less + 1 := ⟨fuel - 1, by omega⟩
  have new : name ∉ seen.map (·.1) := by
    rw [List.map_append, List.nodup_append] at distinct
    exact fun old => distinct.2.2 name old name List.mem_cons_self rfl
  cases fields with
  | nil =>
      have only : Text.join [','] (writeFields .compact [(name, value)]) = _ :=
        List.intercalate_singleton.trans (writeField_eq name value)
      rw [only] at enough ⊢
      simp only [List.length_cons, List.length_append] at enough
      have read := readValue?_writeCompact fuel value ('\x7d' :: rest) legible.1 (by omega)
        (.inr ⟨rest, .inr (.inr rfl)⟩)
      rw [readFields?_field seen (by rw [length_escapeText]; omega) read, set_of_notMem new,
        Inked.skipBlanks (by decide)]
      rfl
  | cons second fields =>
      rw [writeFields, writeField_eq, writeFields, join_cons_cons, ← writeFields] at enough ⊢
      simp only [List.length_cons, List.length_append] at enough
      rw [List.append_assoc, List.cons_append (a := ',')]
      have read := readValue?_writeCompact fuel value
        (',' :: (Text.join [','] (writeFields .compact (second :: fields)) ++ '\x7d' :: rest))
        legible.1 (by omega) (.inr ⟨_, .inl rfl⟩)
      have others := readFields?_writeFields fuel (seen ++ [(name, value)]) second.1 second.2 fields
        rest (by simpa using distinct) legible.2 (by omega)
      rw [readFields?_field seen (by rw [length_escapeText]; omega) read, set_of_notMem new,
        Inked.skipBlanks (by decide)]
      simpa using others

end

/-- A value within limits comes back from its text. -/
theorem readWithin?_writeCompact {limits : Limits} {value : Json}
    (legible : Legible limits.wholeLength limits.depth value) :
    readWithin? limits (writeCompact value) = some value := by
  have read := readValue?_writeCompact (2 * (writeCompact value).length + 2) value [] legible
    (by omega) (.inl rfl)
  rw [List.append_nil] at read
  rw [readWithin?, read]
  rfl

end Json

end Scholia
