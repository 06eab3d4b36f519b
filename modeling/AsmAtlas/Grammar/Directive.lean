import AsmAtlas.Grammar.Label

/-!
# Directives and operands

Lines that open or close a module, structure, macro or CA65 block, and the operands that make a
label a constant or data. In a listing a directive may stand behind generated columns.
-/

namespace AsmAtlas
namespace Directive

open Pattern

/-- The beginning of a line up to its directive. -/
def lead : Dialect → Pattern
  | .source => seq lineStart blanks
  | .listing => all [lineStart, optional (seq (few isInLine) (char isBlank)), blanks]

/-- A keyword, and the name behind it if there is one. -/
def keywordAndName (dialect : Dialect) (keywords : List String) : Pattern :=
  all [lead dialect, group .keyword (any (keywords.map fun word => spelled word.toList)), wordEdge,
    optional (seq gap (group .name labelName))]

/-- `MODULE name` or `ENDMODULE`. -/
def moduleLine (dialect : Dialect) : Pattern :=
  keywordAndName dialect ["MODULE", "ENDMODULE"]

/-- `STRUCT name` or `ENDS`. -/
def structLine (dialect : Dialect) : Pattern :=
  keywordAndName dialect ["STRUCT", "ENDS"]

/-- `MACRO name`. -/
def macroLine (dialect : Dialect) : Pattern :=
  all [lead dialect, group .keyword (spelled "MACRO".toList), gap, group .name labelName]

/-- `MACRO` behind the label that names the macro. -/
def macroAfterLabel : Pattern :=
  all [lineStart, blanks, spelled "MACRO".toList, wordEdge]

/-- A name in a CA65 directive. -/
def blockName : Pattern :=
  seq (char fun c => c == '@' || isNameStart c) (many fun c => isWordChar c || c == '@')

/-- A CA65 directive that declares a name or opens an anonymous block. -/
def blockLine (dialect : Dialect) : Pattern :=
  all [lead dialect, group .directive (oneOf Keyword.declaring), nameEnd,
    optional (seq gap (group .name blockName))]

/-- A CA65 directive that closes a block. -/
def blockEndLine (dialect : Dialect) : Pattern :=
  all [lead dialect, group .directive (oneOf Keyword.blockClosers), nameEnd]

/-- The operand of a constant: a keyword or an equals sign, and a value. -/
def constantOperand : Pattern :=
  all [lineStart,
    group .keyword (any [seq (oneOf Keyword.constants) nameEnd,
      seq (exactly ':') (exactly '='), exactly '=']),
    blanks, group .value (many isInLine)]

/-- The operand of a data definition: a keyword and its values. -/
def dataOperand : Pattern :=
  all [lineStart, group .keyword (seq (oneOf Keyword.data) nameEnd), blanks,
    group .value (many isInLine)]

end Directive
end AsmAtlas
