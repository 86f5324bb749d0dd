import DelegateClasses.TypeTree.Basic

/-! The full written form of a type, with every name qualified. -/
namespace DelegateClasses.TypeTree

/-- As many array suffixes as there are dimensions, none for a negative count. -/
def suffixes (dimensions : Int) : String :=
  String.join (List.replicate dimensions.toNat "[]")

/-- A bound after the word that introduces it. -/
def boundText (kind : Option String) (bound : String) : String :=
  wildcardName ++ " " ++ kind.getD "None" ++ " " ++ bound

/-- A name, its written type arguments and its array suffixes. -/
def applied (name : String) (arguments : List String) (dimensions : Int) : String :=
  name ++ (if arguments.isEmpty then "" else "<" ++ ", ".intercalate arguments ++ ">") ++
    suffixes dimensions

mutual

/-- The written form of a type. -/
def text : TypeTree → String
  | ⟨name, qualified, arguments, dimensions, kind, bound⟩ =>
    if name = wildcardName then
      match bound with
      | none => wildcardName
      | some type => boundText kind (text type)
    else
      let full := match qualified with
        | some full => if full = "" then name else full
        | none => name
      applied full (texts arguments) dimensions

/-- The written forms of several types. -/
def texts : List TypeTree → List String
  | [] => []
  | type :: types => text type :: texts types

end

end DelegateClasses.TypeTree
