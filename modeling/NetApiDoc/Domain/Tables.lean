import NetApiDoc.Kind
import NetApiDoc.Text.Dotted

set_option autoImplicit false

namespace NetApiDoc.Domain

open NetApiDoc.Text

def kindRoles (k : Kind) : List String := [k.shortName, k.longName, "obj"]

def textLe (a b : String) : Bool := compare a b != .gt

def kindNamesForRole (role : String) : Option (List String) :=
  let names := Kind.all.flatMap fun k =>
    ((kindRoles k).filter (· == role)).flatMap fun _ => [k.shortName, k.longName]
  if names.isEmpty then none else some names

def roleForKindName (name : String) : Option String :=
  (Kind.ofLongName? name).map Kind.shortName

def roleNamesInOrder : List String :=
  (Kind.all.flatMap kindRoles).foldl (fun acc r => if acc.contains r then acc else acc ++ [r]) []

def roleNames : List String :=
  roleNamesInOrder.mergeSort textLe

def roleTable : List (String × List String) :=
  roleNamesInOrder.map fun r => (r, (kindNamesForRole r).getD [])

def kindRoleTable : List (String × String) :=
  Kind.all.map fun k => (k.longName, k.shortName)

def objectTypeNames : List String :=
  (Kind.all.map Kind.longName).mergeSort textLe

def directiveTable : List (String × String) :=
  let named := (Kind.all.map fun k => (k.longName, k.typeName)) ++
    (Kind.all.map fun k => (k.shortName, k.typeName))
  let distinct := named.foldl (fun acc p => if acc.any (·.1 == p.1) then acc else acc ++ [p]) []
  distinct.mergeSort fun a b => textLe a.1 b.1

def moduleIndexInfo : String × String × String :=
  ("modindex", ".NET Module Index", ".NET modules")

/-- The index text of an object: its last dotted part, then in parentheses the rest of its
name and the kind; a name without dot is followed by the kind alone. -/
def indexText (kindName : Option String) (fullName : String) : String :=
  let kind := kindName.getD "None"
  match splitAtLast '.' fullName.toList with
  | some (rest, last) => String.ofList last ++ " (" ++ String.ofList rest ++ " " ++ kind ++ ")"
  | none => fullName ++ " (" ++ kind ++ ")"

structure ObjectType where
  label : String
  roles : List (Option String)
  deriving DecidableEq, Repr

def objectType (d : Directive) : ObjectType :=
  ⟨d.longName?.getD "None", [d.shortName?, d.longName?, some "obj"]⟩

end NetApiDoc.Domain
