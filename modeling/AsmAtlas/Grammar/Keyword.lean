import AsmAtlas.Text.Basic

/-!
# Keywords

The words of the assembler dialects that open and close scopes, define constants and data, or
control the assembler. Their letters may be written in either case.
-/

namespace AsmAtlas

/-- The two dialects: assembler source, and listings, in which address and byte columns stand
    before the source text. -/
inductive Dialect where
  | source
  | listing
deriving DecidableEq

namespace Keyword

/-- Keywords of modules, structures and macros. -/
def scopes : List Text :=
  ["MODULE", "ENDMODULE", "STRUCT", "ENDS", "MACRO", "ENDM", "ENDMACRO"].map String.toList

/-- Directives of CA65 that open a block. -/
def blockOpeners : List Text :=
  [".proc", ".scope", ".macro", ".mac", ".struct", ".union", ".enum"].map String.toList

/-- The directive of CA65 that defines a name without opening a block. -/
def define : Text :=
  ".define".toList

/-- Directives of CA65 that close a block. -/
def blockClosers : List Text :=
  [".endproc", ".endscope", ".endmacro", ".endmac", ".endstruct", ".endunion",
    ".endenum"].map String.toList

/-- Directives of CA65 that neither open, close nor define anything. -/
def controls : List Text :=
  [".segment", ".code", ".data", ".rodata", ".bss", ".zeropage", ".pushseg", ".popseg",
    ".export", ".exportzp", ".import", ".importzp", ".global", ".globalzp", ".forceimport",
    ".autoimport", ".include", ".incbin", ".macpack", ".org", ".reloc", ".align",
    ".if", ".ifdef", ".ifndef", ".ifblank", ".ifnblank", ".ifconst", ".ifref", ".ifnref",
    ".elseif", ".else", ".endif", ".repeat", ".endrepeat", ".endrep", ".assert",
    ".error", ".warning", ".fatal", ".out", ".setcpu", ".p02", ".pc02", ".p816", ".feature",
    ".charmap", ".a8", ".a16", ".i8", ".i16", ".smart", ".list", ".listbytes", ".linecont",
    ".debuginfo", ".exitmacro", ".exitmac", ".delmacro", ".delmac", ".undefine", ".undef",
    ".end"].map String.toList

/-- Keywords that give a label a constant value. -/
def constants : List Text :=
  ["EQU", "DEFL", ".set"].map String.toList

/-- Keywords that reserve or fill memory. -/
def data : List Text :=
  ["DEFB", "DEFW", "DEFS", "DEFM", "DEFD", "DEFH", "DEFG",
    "DB", "DW", "DS", "DM", "DD", "DH", "DZ", "DC", "DG",
    "BYTE", "WORD", "DWORD", "BLOCK", "ABYTE", "ABYTEC", "ABYTEZ",
    ".byte", ".word", ".dbyt", ".dword", ".res", ".ascii", ".asciiz",
    ".addr", ".faraddr", ".lobytes", ".hibytes", ".bankbytes", ".tag"].map String.toList

/-- Directives of CA65 that declare a name. -/
def declaring : List Text :=
  blockOpeners ++ [define]

/-- Words that cannot be labels without a colon. -/
def reserved : List Text :=
  scopes ++ declaring ++ blockClosers ++ controls ++ constants ++ data

end Keyword

end AsmAtlas
