import NetApiDoc.Text.Blank
import NetApiDoc.Doc.Node

set_option autoImplicit false

namespace NetApiDoc.Describe

open NetApiDoc.Text

abbrev Groups := List (List Node)

def Groups.add (n : Node) : Groups → Option Groups
  | g :: gs => some ((g ++ [n]) :: gs)
  | [] => none

def Groups.start : Groups → Option Groups
  | [] => none
  | gs => some ([] :: gs)

def Groups.finish : Groups → Option Groups
  | inner :: outer :: rest => some ((outer ++ [.element "desc_optional" [] inner]) :: rest)
  | _ => none

def Groups.iterate (step : Groups → Option Groups) : Nat → Groups → Option Groups
  | 0, gs => some gs
  | n + 1, gs => (step gs).bind (Groups.iterate step n)

def dropMarks (isMark : List Char → Bool) : List Char → Nat × List Char
  | [] => (0, [])
  | c :: rest =>
    if isMark (c :: rest) then
      let (n, r) := dropMarks isMark (stripBlanks rest)
      (n + 1, r)
    else (0, c :: rest)
termination_by s => s.length
decreasing_by
  have := length_stripBlanks_le rest
  simp only [List.length_cons]
  omega

def startsWith (c : Char) (s : List Char) : Bool := s.head? == some c

def endsInClose (r : List Char) : Bool := r.head? == some ']' && r.tail.head? != some '['

def addArgument (gs : Groups) (argument : List Char) : Option Groups := do
  let (opens, a) := dropMarks (startsWith '[') (stripBlanks argument)
  let gs ← Groups.iterate Groups.start opens gs
  let (closes, a) := dropMarks (startsWith ']') a
  let gs ← Groups.iterate Groups.finish closes gs
  let (endCloses, r) := dropMarks endsInClose a.reverse
  let (endOpens, r) := dropMarks (startsWith '[') r
  let a := r.reverse
  let gs ← if a.isEmpty then pure gs
    else gs.add (Node.withText "desc_parameter" [] (String.ofList a))
  let gs ← Groups.iterate Groups.start endOpens gs
  Groups.iterate Groups.finish endCloses gs

def parameterList (arguments : String) : Node :=
  match (arguments.splitOn ",").foldlM (fun gs a => addArgument gs a.toList) [[]] with
  | some [items] => .element "desc_parameterlist" [] items
  | _ => .element "desc_parameterlist" [] [Node.withText "desc_parameter" [] arguments]

end NetApiDoc.Describe
