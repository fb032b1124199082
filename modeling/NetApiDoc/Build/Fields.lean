import NetApiDoc.Build.Draft
import NetApiDoc.Text.Lower
import NetApiDoc.Text.Blank
import NetApiDoc.Error

set_option autoImplicit false

namespace NetApiDoc.Build

open NetApiDoc.Text

inductive FieldType
  | arguments
  | argumentType
  | returns
  | returnType
  deriving DecidableEq, Repr

namespace FieldType

def ofName? : String → Option FieldType
  | "param" | "parameter" | "arg" | "argument" => some arguments
  | "type" | "paramtype" => some argumentType
  | "returns" | "return" => some returns
  | "rtype" => some returnType
  | _ => none

def takesArgument : FieldType → Bool
  | arguments | argumentType => true
  | returns | returnType => false

end FieldType

def splitFieldName (name : String) : String × String :=
  let cs := name.toList.dropWhile isBlank
  let type := cs.takeWhile (!isBlank ·)
  (String.ofList type, String.ofList ((cs.drop type.length).dropWhile isBlank))

def fieldParts : Draft → Option (List Draft × List Draft)
  | .element "field" _ [.element "field_name" _ name, .element "field_body" _ body] =>
    some (name, body)
  | _ => none

def fieldContent : List Draft → List Draft
  | [.element "paragraph" _ children] => children
  | body => body

def isPlainText : List Draft → Bool
  | [.done (.text _)] => true
  | _ => false

def fieldOf (name body : List Draft) : Draft :=
  .element "field" [] [.element "field_name" [] name, .element "field_body" [] body]

def keptField (type arg : String) (name body : List Draft) : Draft :=
  let shown := capitalizeFirst type ++ (if arg.isEmpty then "" else " " ++ arg)
  fieldOf (Draft.ofText shown :: name.drop 1) body

def labelledField (label : String) (content : List Draft) : Draft :=
  fieldOf [Draft.ofText label] [.element "paragraph" [] content]

def transformField (member : Bool) (field : Draft) : Except Error (Option Draft) :=
  match fieldParts field with
  | none => .ok (some field)
  | some (name, body) =>
    let (type, arg) := splitFieldName (Draft.plainTextAll name)
    let content := fieldContent body
    match (if member then FieldType.ofName? type else none) with
    | none => .ok (some (keptField type arg name body))
    | some t =>
      if t.takesArgument != !arg.isEmpty then
        if t == .argumentType && isPlainText content then .error .fieldLink
        else .ok (some (keptField type arg name body))
      else match t with
        | .arguments => .error .fieldLink
        | .argumentType => .ok none
        | .returns => .ok (some (labelledField "Returns" content))
        | .returnType =>
          if isPlainText content then .error .fieldLink
          else .ok (some (labelledField "Return type" content))

def transformChild (member : Bool) : Draft → Except Error Draft
  | .element "field_list" _ fields => do
    return .element "field_list" [] (← fields.filterMapM (transformField member))
  | d => .ok d

def transformFields (member : Bool) (content : List Draft) : Except Error (List Draft) :=
  content.mapM (transformChild member)

end NetApiDoc.Build
