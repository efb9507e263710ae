/-!
# The words of Fortran that matter to the checker

All words are in small letters; Fortran does not distinguish case.  No word is
reserved: a name may be spelled like any of them, so the lists say what a word
means at the start of a statement, and every reader decides by position.
-/

namespace FortranStyle.Vocabulary

/-- Words that are marked as keywords among the names. -/
def keywords : List String :=
  [
    "abstract", "allocatable", "allocate", "associate", "block", "call", "case",
    "character", "class", "close", "complex", "contains", "contiguous", "critical",
    "cycle", "data", "deallocate", "default", "dimension", "do", "double", "elemental",
    "else", "elseif", "elsewhere", "end", "endassociate", "endblock", "endcritical",
    "enddo", "endenum", "endforall", "endfunction", "endif", "endinterface", "endmodule",
    "endprogram", "endselect", "endsubmodule", "endsubroutine", "endtype", "endwhere",
    "enum", "error", "exit", "external", "forall", "function", "go", "goto", "if",
    "implicit", "import", "impure", "in", "inout", "integer", "intent", "interface",
    "intrinsic", "logical", "module", "none", "nullify", "only", "open", "optional",
    "out", "parameter", "pointer", "precision", "print", "private", "procedure",
    "program", "protected", "public", "pure", "read", "real", "recursive", "result",
    "return", "save", "select", "selectcase", "selecttype", "stop", "submodule",
    "subroutine", "target", "then", "type", "use", "value", "where", "while", "write"
  ]

/-- First words of the intrinsic types. -/
def intrinsicTypes : List String :=
  [
    "character", "complex", "double", "doublecomplex", "doubleprecision", "integer",
    "logical", "real"
  ]

/-- Words which begin a statement of a specification part. -/
def specificationWords : List String :=
  [
    "abstract", "allocatable", "asynchronous", "bind", "class", "common", "contiguous",
    "data", "dimension", "enum", "enumerator", "equivalence", "external", "format",
    "generic", "implicit", "import", "include", "intent", "interface", "intrinsic",
    "namelist", "optional", "parameter", "pointer", "private", "procedure", "protected",
    "public", "save", "sequence", "target", "type", "use", "value", "volatile"
  ] ++ intrinsicTypes

/-- Words allowed before FUNCTION and SUBROUTINE. -/
def procedureMarks : List String :=
  [
    "elemental", "impure", "module", "non_recursive", "pure", "recursive", "simple"
  ]

/-- Words which begin a statement whose effect is visible outside its procedure. -/
def effectWords : List String :=
  [
    "backspace", "close", "endfile", "error", "flush", "inquire", "open", "print", "read",
    "rewind", "stop", "wait", "write"
  ]

/-- Words which begin a statement whose brackets hold bounds or selectors and no
array sections. -/
def boundsWords : List String :=
  [
    "allocate", "case", "deallocate", "dimension", "forall", "rank"
  ] ++ intrinsicTypes

end FortranStyle.Vocabulary
