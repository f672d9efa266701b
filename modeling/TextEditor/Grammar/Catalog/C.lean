import TextEditor.Grammar.Catalog.Shared

/-!
# The grammars of C and C++
-/

namespace TextEditor.Catalog

/-- The keywords of C. -/
def cKeywords : List String :=
  ["auto", "break", "case", "char", "const", "continue", "default", "do", "double", "else",
   "enum", "extern", "float", "for", "goto", "if", "inline", "int", "long", "register",
   "restrict", "return", "short", "signed", "sizeof", "static", "struct", "switch", "typedef",
   "union", "unsigned", "void", "volatile", "while", "_Alignas", "_Alignof", "_Atomic", "_Bool",
   "_Static_assert", "_Noreturn", "_Thread_local", "_Generic", "NULL"]

/-- The keywords of C++. -/
def cppKeywords : List String :=
  ["alignas", "alignof", "and", "and_eq", "asm", "auto", "bitand", "bitor", "bool", "break",
   "case", "catch", "char", "char8_t", "char16_t", "char32_t", "class", "compl", "concept",
   "const", "consteval", "constexpr", "constinit", "const_cast", "continue", "co_await",
   "co_return", "co_yield", "decltype", "default", "delete", "do", "double", "dynamic_cast",
   "else", "enum", "explicit", "export", "extern", "false", "float", "for", "friend", "goto",
   "if", "inline", "int", "long", "mutable", "namespace", "new", "noexcept", "not", "not_eq",
   "nullptr", "operator", "or", "or_eq", "private", "protected", "public", "register",
   "reinterpret_cast", "requires", "return", "short", "signed", "sizeof", "static",
   "static_assert", "static_cast", "struct", "switch", "template", "this", "thread_local",
   "throw", "true", "try", "typedef", "typeid", "typename", "union", "unsigned", "using",
   "virtual", "void", "volatile", "wchar_t", "while", "xor", "xor_eq", "override", "final"]

/-- When C and C++ indent. -/
def cIndent : IndentRules := ⟨cFamilyBlockKeywords, .bare, false, false⟩

/-- Strings, characters and the file names of include directives. -/
def cString : String :=
  "\"(?:[^\"\\\\]|\\\\.)*\"|'(?:[^'\\\\]|\\\\.)*'|^\\s*#\\s*include\\s*(<[^>]*>)"

/-- The grammar of C. -/
def c : GrammarTable where
  language := .c
  keywords := cKeywords
  literals := [
    ⟨.string, cString⟩,
    ⟨.comment, slashComments⟩]
  patterns := [
    ⟨.preprocessor, "^\\s*#\\s*[a-zA-Z_]\\w*"⟩,
    ⟨.number, cNumber⟩,
    ⟨.operator, "[+\\-*/=<>!&|^%~?]+"⟩,
    ⟨.function, "\\b([a-zA-Z_]\\w*)\\s*\\("⟩,
    ⟨.typeName, "\\b[a-zA-Z_]\\w*_t\\b"⟩,
    ⟨.constant, "\\b[A-Z][A-Z0-9_]+\\b"⟩]
  indent := cIndent

/-- The grammar of C++. -/
def cpp : GrammarTable where
  language := .cpp
  keywords := cppKeywords
  literals := [
    ⟨.string, "\\b(?:u8|[uUL])?R\"\\(.*?(?:\\)\"|$)"⟩,
    ⟨.string, cString⟩,
    ⟨.comment, slashComments⟩]
  patterns := [
    ⟨.preprocessor, "^\\s*#\\s*[a-zA-Z_]\\w*"⟩,
    ⟨.namespaceName, "\\bnamespace\\s+([a-zA-Z_]\\w*)|\\b([a-zA-Z_]\\w*)::"⟩,
    ⟨.number, cNumber⟩,
    ⟨.operator, "::|->|[+\\-*/=<>!&|^%~?]+"⟩,
    ⟨.className, "\\b(?:class|struct|enum\\s+class)\\s+([a-zA-Z_]\\w*)"⟩,
    ⟨.method, "(?:\\.|->)([a-zA-Z_]\\w*)\\s*\\("⟩,
    ⟨.function, "\\b([a-zA-Z_]\\w*)\\s*\\("⟩,
    ⟨.typeName, "\\b[a-zA-Z_]\\w*_t\\b"⟩,
    ⟨.constant, "\\b[A-Z][A-Z0-9_]+\\b"⟩,
    ⟨.className, "\\b[A-Z][a-z]\\w*\\b"⟩]
  indent := cIndent

end TextEditor.Catalog
