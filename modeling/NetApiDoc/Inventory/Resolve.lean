import NetApiDoc.Inventory.Lookup
import NetApiDoc.Doc.Node

set_option autoImplicit false

namespace NetApiDoc

abbrev Addressing := Option String → Option String → Except Error String

def Addressing.pages : Addressing := fun _ target =>
  match target with
  | some d => .ok (d ++ ".html")
  | none => .error .missingDocument

def Addressing.onePage : Addressing := fun _ _ => .ok ""

def referenceNode (addr : Addressing) (fromDoc toDoc : Option String) (anchor : String)
    (content : Node) (title : String) : Except Error Node := do
  let target ←
    if fromDoc == toDoc && !anchor.isEmpty then pure ("refid", Value.str anchor)
    else
      let uri ← addr fromDoc toDoc
      pure ("refuri", Value.str (if anchor.isEmpty then uri else uri ++ "#" ++ anchor))
  let titled := if title.isEmpty then [] else [("reftitle", Value.str title)]
  return .element "reference" ([("internal", .bool true), target] ++ titled) [content]

namespace Inventory

def resolve (inv : Inventory) (addr : Addressing) (fromDoc : Option String) (role : String)
    (target : String) (qualifier : Option String) (specific : Bool) (content : Node) :
    Except Error (Option Node) := do
  let mode := if specific then SearchMode.specific else .exact
  match ← inv.find qualifier target (some role) mode with
  | .found name e =>
    match e.doc with
    | some d => return some (← referenceNode addr fromDoc (some d) name content name)
    | none => return none
  | _ => return none

def resolveAny (inv : Inventory) (addr : Addressing) (fromDoc : Option String)
    (target : String) (qualifier : Option String) (content : Node) :
    Except Error (List (String × Node)) := do
  match ← inv.find qualifier target none .specific with
  | .found name e =>
    let role ← match e.kind.bind Domain.roleForKindName with
      | some r => pure r
      | none => throw .kindWithoutRole
    let node ← referenceNode addr fromDoc e.doc name content name
    return [("dn:" ++ role, node)]
  | .emptyName => throw .emptyLookup
  | .notFound => return []

end Inventory

end NetApiDoc
