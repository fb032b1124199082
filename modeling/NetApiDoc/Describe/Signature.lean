import NetApiDoc.Kind
import NetApiDoc.Describe.Parameters

set_option autoImplicit false

namespace NetApiDoc.Describe

open NetApiDoc.Text

def shownOptions : List String := ["public", "protected", "static"]

structure Described where
  signature : Signature
  nodes : List Node
  name : String × Option String

def Described.attrs (d : Described) : List (String × Value) :=
  [("object", .str d.signature.member), ("prefix", Node.optStr d.signature.qualifier),
    ("fullname", .str d.signature.fullName)]

def parameterPart (arguments : Option (List String)) : Node :=
  match arguments with
  | some (a :: as) => parameterList (", ".intercalate (a :: as))
  | _ => .element "desc_parameterlist" [] []

def describe (k : Kind) (options : List String) (context : Option String) (line : String) :
    Except Error Described := do
  let read ← Signature.read k.shape (String.ofList (stripBlanks line.toList))
  let sig := match context with
    | some p => { read with qualifier := some p }
    | none => read
  let annotations := (k.displayPrefix.toList ++
    (shownOptions.filter options.contains).map (· ++ " ")).map
      (Node.withText "desc_annotation" [])
  let qualifierPart := match sig.qualifier with
    | some q => if k.hasArguments then [] else [Node.withText "desc_addname" [] (q ++ ".")]
    | none => []
  let params := if k.hasArguments then [parameterPart sig.arguments] else []
  let nodes := annotations ++ qualifierPart ++ [Node.withText "desc_name" [] sig.member] ++ params
  let name := if k.isContainer then (sig.fullName, some sig.fullName)
    else (sig.fullName, sig.qualifier)
  return ⟨sig, nodes, name⟩

end NetApiDoc.Describe
