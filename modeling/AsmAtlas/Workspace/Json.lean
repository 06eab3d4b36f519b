import AsmAtlas.Text.CodePoint
import AsmAtlas.Text.Digit

/-!
# Settings values

Settings files are JSON. Besides the standard, `NaN` and the infinities are numbers; integers of
more than 4300 digits and nesting beyond 987 levels are refused. Numbers that are no integers are
all alike here, because no setting has such a value. Strings may hold halves of characters.
-/

namespace AsmAtlas

/-- A value in a settings file. -/
inductive Json where
  | null
  | bool (b : Bool)
  | int (n : Int)
  /-- A number that is not written as an integer. -/
  | real
  | string (t : LooseText)
  | list (items : List Json)
  | object (fields : List (LooseText × Json))

namespace Json

/-- A blank of JSON. -/
def isSpace (c : Char) : Bool :=
  c == ' ' || c == '\t' || c == '\n' || c == '\r'

/-- A text without blanks in front. -/
def skip (t : Text) : Text :=
  t.dropWhile isSpace

/-- The code of a character that a backslash stands in front of. -/
def escaped? (c : Char) : Option Nat :=
  match c with
  | '"' => some 0x22
  | '\\' => some 0x5C
  | '/' => some 0x2F
  | 'b' => some 0x08
  | 'f' => some 0x0C
  | 'n' => some 0x0A
  | 'r' => some 0x0D
  | 't' => some 0x09
  | _ => none

/-- The codes of a string behind its opening quote, and the text behind its closing one. -/
def codes : Text → Option (List Nat × Text)
  | [] => none
  | '"' :: rest => some ([], rest)
  | '\\' :: 'u' :: a :: b :: c :: d :: rest =>
    match numberIn? 16 hexValue? [a, b, c, d] with
    | none => none
    | some n => (codes rest).map fun (more, rest) => (n :: more, rest)
  | '\\' :: c :: rest =>
    match escaped? c with
    | none => none
    | some n => (codes rest).map fun (more, rest) => (n :: more, rest)
  | c :: rest =>
    if c.toNat < 0x20 || c == '\\' then none
    else (codes rest).map fun (more, rest) => (c.toNat :: more, rest)

/-- A string behind its opening quote. -/
def string? (t : Text) : Option (LooseText × Text) :=
  (codes t).map fun (found, rest) => (LooseText.ofCodes found, rest)

/-- The longest integers that are read. -/
def maxDigits : Nat := 4300

/-- The text behind a fraction, if there is one. -/
def fraction? : Text → Option Text
  | '.' :: c :: rest => if c.isDigit then some (rest.dropWhile Char.isDigit) else none
  | _ => none

/-- A text without a sign in front. -/
def dropSign : Text → Text
  | '+' :: rest => rest
  | '-' :: rest => rest
  | t => t

/-- The text behind an exponent, if there is one. -/
def exponent? : Text → Option Text
  | c :: rest =>
    if c == 'e' || c == 'E' then
      match dropSign rest with
      | d :: rest => if d.isDigit then some (rest.dropWhile Char.isDigit) else none
      | [] => none
    else none
  | [] => none

/-- The digits of the integer part of a number: a zero, or digits that do not begin with one. -/
def wholeDigits (t : Text) : Text :=
  match t with
  | '0' :: _ => ['0']
  | t => t.takeWhile Char.isDigit

/-- A number, whose sign was read already. -/
def number? (negative : Bool) (t : Text) : Option (Json × Text) :=
  let digits := wholeDigits t
  if digits.isEmpty then none
  else
    let rest := t.drop digits.length
    let behindFraction := (fraction? rest).getD rest
    match fraction? rest, exponent? behindFraction with
    | none, none =>
      if maxDigits < digits.length then none
      else
        (numberIn? 10 hexValue? digits).map fun n =>
          (.int (if negative then -(n : Int) else n), rest)
    | some rest, none => some (.real, rest)
    | _, some rest => some (.real, rest)

/-- A word that stands for a value. -/
def word? (word : String) (value : Json) (t : Text) : Option (Json × Text) :=
  if t.startsWith word.toList then some (value, t.drop word.length) else none

/-- A value without parts. -/
def scalar? (t : Text) : Option (Json × Text) :=
  match t with
  | '"' :: rest => (string? rest).map fun (found, rest) => (.string found, rest)
  | 'n' :: _ => word? "null" .null t
  | 't' :: _ => word? "true" (.bool true) t
  | 'f' :: _ => word? "false" (.bool false) t
  | 'N' :: _ => word? "NaN" .real t
  | 'I' :: _ => word? "Infinity" .real t
  | '-' :: 'I' :: _ => word? "-Infinity" .real t
  | '-' :: rest => number? true rest
  | t => number? false t

/-- The deepest nesting that is read. It was measured on a stack of 1000 calls that holds nothing
    but the start of a program, the loading of its settings and the reader; with more on the stack,
    less can be read. -/
def maxDepth : Nat := 987

mutual

/-- A value at the beginning of a text, nested at most `depth` levels. The first number bounds the
    steps. -/
def value? : Nat → Nat → Text → Option (Json × Text)
  | 0, _, _ => none
  | steps + 1, depth, t =>
    match t, depth with
    | '[' :: _, 0 => none
    | '\x7b' :: _, 0 => none
    | '[' :: rest, depth + 1 =>
      match skip rest with
      | ']' :: rest => some (.list [], rest)
      | rest => (items? steps depth rest).map fun (items, rest) => (.list items, rest)
    | '\x7b' :: rest, depth + 1 =>
      match skip rest with
      | '\x7d' :: rest => some (.object [], rest)
      | rest => (fields? steps depth rest).map fun (fields, rest) => (.object fields, rest)
    | t, _ => scalar? t

/-- The items of a list up to its closing bracket. -/
def items? : Nat → Nat → Text → Option (List Json × Text)
  | 0, _, _ => none
  | steps + 1, depth, t =>
    match value? steps depth t with
    | none => none
    | some (item, rest) =>
      match skip rest with
      | ']' :: rest => some ([item], rest)
      | ',' :: rest =>
        (items? steps depth (skip rest)).map fun (items, rest) => (item :: items, rest)
      | _ => none

/-- The fields of an object up to its closing brace. -/
def fields? : Nat → Nat → Text → Option (List (LooseText × Json) × Text)
  | 0, _, _ => none
  | steps + 1, depth, t =>
    match t with
    | '"' :: rest =>
      match string? rest with
      | none => none
      | some (key, rest) =>
        match skip rest with
        | ':' :: rest =>
          match value? steps depth (skip rest) with
          | none => none
          | some (value, rest) =>
            match skip rest with
            | '\x7d' :: rest => some ([(key, value)], rest)
            | ',' :: rest =>
              (fields? steps depth (skip rest)).map fun (fields, rest) =>
                ((key, value) :: fields, rest)
            | _ => none
        | _ => none
    | _ => none

end

/-- The value that a text is. Each step of reading takes at least half a character. -/
def ofText? (t : Text) : Option Json :=
  match value? (2 * t.length + 2) maxDepth (skip t) with
  | some (value, rest) => if (skip rest).isEmpty then some value else none
  | none => none

end Json

end AsmAtlas
