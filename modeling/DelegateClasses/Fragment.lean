/-! Pieces of source text from which a generated class is put together. -/
namespace DelegateClasses.Fragment

/-- One level of indentation. -/
def indent : String := "  "

/-- The name of the field that holds the wrapped instance. -/
def wrappedName : String := "entity"

/-- The parts that are not empty, with the separator between them. -/
def joinNonEmpty (separator : String) (parts : List String) : String :=
  separator.intercalate (parts.filter (· != ""))

/-- A list of arguments or types, without those that are empty. -/
def commaList (parts : List String) : String :=
  joinNonEmpty ", " parts

/-- A call of a getter, the field name given with an upper-case start. -/
def getterCall (object field : String) : String :=
  object ++ ".get" ++ field ++ "()"

/-- A call of a setter, the field name given with an upper-case start. -/
def setterCall (object field value : String) : String :=
  object ++ ".set" ++ field ++ "(" ++ value ++ ")"

/-- A call of any other method. -/
def call (object method : String) (arguments : List String) : String :=
  object ++ "." ++ method ++ "(" ++ commaList arguments ++ ")"

/-- The line that places a file in a package. -/
def packageLine (package : String) : String :=
  "package " ++ package ++ ";"

/-- The line that imports a name. -/
def importLine (name : String) : String :=
  "import " ++ name ++ ";"

/-- The line that opens a class. -/
def classLine (name modifiers : String) : String :=
  (if modifiers = "" then "" else modifiers ++ " ") ++ "class " ++ name ++ " \x7b"

/-- A braced block. The heading ends with the opening brace, the statements
stand one level deeper than the closing brace. -/
def block (heading : String) (statements : List String) (margin : String) : String :=
  "\n".intercalate (heading :: statements.map (margin ++ indent ++ ·) ++ [margin ++ "\x7d"])

end DelegateClasses.Fragment
