/-!
# Reserved Dart names
-/

namespace DartRecords.Dart

/-- The words that Dart reserves. -/
def keywords : List String :=
  ["abstract", "as", "assert", "async", "await", "break", "case", "catch", "class", "const",
   "continue", "covariant", "default", "deferred", "do", "dynamic", "else", "enum", "export",
   "extends", "extension", "external", "factory", "false", "final", "finally", "for", "Function",
   "get", "hide", "if", "implements", "import", "in", "interface", "is", "late", "library",
   "mixin", "new", "null", "on", "operator", "part", "required", "rethrow", "return", "set",
   "show", "static", "super", "switch", "sync", "this", "throw", "true", "try", "typedef", "var",
   "void", "while", "with", "yield"]

/-- The members that every Dart object has. -/
def objectMembers : List String := ["hashCode", "noSuchMethod", "runtimeType", "toString"]

/-- The members that every generated struct class has. -/
def structMembers : List String :=
  ["defaultInstance", "mutable", "serializer", "toFrozen", "toMutable"]

/-- The members that every generated enum class has. -/
def enumMembers : List String := ["isUnknown", "kind", "serializer"]

end DartRecords.Dart
