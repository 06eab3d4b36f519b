import AsmAtlas.Grammar.Directive
import AsmAtlas.Pattern.Escape

/-!
# Searching for a word

Patterns that find the declarations of a word, or its uses, anywhere in a line. Each notes the
word itself, so that its own columns can be reported, and declarations also note the text in
front of it.
-/

namespace AsmAtlas

/-- The word that a search is for. -/
inductive Wanted where
  /-- This word, up to case. -/
  | exact (word : Text)
  /-- Any dotted identifier that has the characters of the query in their order. -/
  | fuzzy (query : Text)
deriving DecidableEq

namespace Wanted

open Pattern

/-- Skips part of a dotted identifier. -/
def skip : Pattern :=
  many isWordOrDot

/-- The pattern of a wanted word. -/
def pattern : Wanted → Pattern
  | exact word => spelled word
  | fuzzy query => seq skip (query.foldr (fun c rest => seq (letter c) (seq skip rest)) empty)

/-- How a wanted word is written in the notation of regular expressions. -/
def expression : Wanted → Text
  | exact word => word.flatMap escapeChar
  | fuzzy query =>
    let gap := "[\\w.]*".toList
    gap ++ query.flatMap fun c => escapeChar c ++ gap

end Wanted

namespace WordSearch

open Pattern

/-- The colon of a label: it is not followed by another one. -/
def closingColon : Pattern :=
  seq (exactly ':') (alt (char (· != ':')) lineEnd)

/-- An optional `@` and part of a dotted name. -/
def nameStem : Pattern :=
  seq (optional (exactly '@')) (many isWordOrDot)

/-- A label declared with a colon. The word may be any dot segment of it, and a listing may have
    anything in front. -/
def labelWithColon (w : Wanted) : Dialect → Pattern
  | .source =>
    all [group .before (alt (seq lineStart nameStem)
        (all [lineStart, many isInLine, char isBlank, nameStem])),
      wordEdge, group .word w.pattern, closingColon]
  | .listing =>
    all [lineStart, group .before (many isInLine), wordEdge, group .word w.pattern, closingColon]

/-- A label declared without a colon at the beginning of the line. -/
def labelWithoutColon (w : Wanted) : Pattern :=
  all [lineStart, notReserved,
    group .before (optional (group .inner
      (seq (char fun c => !(c.isDigit || isBlank c)) (many isWordOrDot)))),
    wordEdge, group .word w.pattern, notAhead (char fun c => isWordOrDot c || c == ':')]

/-- The label declarations that a dialect has. -/
def labels (w : Wanted) (dialect : Dialect) (rules : LabelRules) : List Pattern :=
  (if rules.withColons then [labelWithColon w dialect] else []) ++
    (if rules.withoutColons && dialect == .source then [labelWithoutColon w] else [])

/-- A word directly behind one of some keywords. -/
def behindKeyword (w : Wanted) (keywords : Pattern) (dialect : Dialect) : Pattern :=
  let lead :=
    match dialect with
    | .source => blanks
    | .listing => seq (few isInLine) gap
  all [lineStart, group .before (all [lead, group .inner keywords, gap]), group .word w.pattern,
    nameEnd]

/-- `MODULE word` or `STRUCT word`. -/
def moduleOrStruct (w : Wanted) : Dialect → Pattern :=
  behindKeyword w (any [spelled "MODULE".toList, spelled "STRUCT".toList])

/-- `MACRO word`. -/
def macroName (w : Wanted) : Dialect → Pattern :=
  behindKeyword w (spelled "MACRO".toList)

/-- A CA65 directive that declares the word. -/
def blockName (w : Wanted) : Dialect → Pattern :=
  behindKeyword w (oneOf Keyword.declaring)

/-- All declarations of a word. -/
def declarations (w : Wanted) (dialect : Dialect) (rules : LabelRules) : List Pattern :=
  labels w dialect rules ++ [moduleOrStruct w dialect, macroName w dialect, blockName w dialect]

/-- The beginning of an identifier, which a `$` in front would make a hexadecimal number. -/
def wordStart : Pattern :=
  notBehind fun c => isWordChar c || c == '$'

/-- Every use of a word that is not part of a longer identifier. A `.` or `@` may stand in front,
    so that qualified names and cheap local labels are found. -/
def uses (word : Text) : Pattern :=
  all [wordStart, group .word (spelled word), notAhead (char isWordChar)]

/-- Every identifier. -/
def identifiers : Pattern :=
  all [wordStart, group .word (seq (char isPlainStart) (many isWordChar)),
    notAhead (char isWordChar)]

end WordSearch
end AsmAtlas
