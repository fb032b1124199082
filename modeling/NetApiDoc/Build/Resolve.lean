import NetApiDoc.Build.Read
import NetApiDoc.Inventory.Resolve

set_option autoImplicit false

namespace NetApiDoc.Build

open NetApiDoc.Markup

structure Project where
  docs : List String
  inventory : Inventory
  tables : String → List Contents

abbrev Resolver := StateT (List Warning) (Except Error)

def report (w : Warning) : Resolver Unit := modify (· ++ [w])

def documentReference (caption : String) : Node :=
  .element "reference" [("internal", .bool true), ("refuri", .str "")]
    [Node.withText "inline" [("classes", .list [.str "doc"])] caption]

def roleDomain (role : String) : String := (role.splitOn ":").headD role

def resolveReference (p : Project) (doc : String) (r : CrossRef) : Resolver (List Node) := do
  match r.wanted with
  | .domain role =>
    match ← StateT.lift (p.inventory.resolve .onePage (some doc) role r.target r.context false
        r.content) with
    | some n => return [n]
    | none => return [r.content]
  | .any =>
    let caption := if r.explicit then r.content.plainText else "<no title>"
    let asDocument := if p.docs.contains (joinDocName doc r.target) then
        [("doc", documentReference caption)] else []
    let found ← StateT.lift (p.inventory.resolveAny .onePage (some doc) r.target r.context
      r.content)
    match asDocument ++ found with
    | [] =>
      report ⟨doc, some r.line, ["'any' reference target not found: " ++ r.target]⟩
      return [r.content]
    | (role, node) :: more =>
      if !more.isEmpty then
        let roles := ((role, node) :: more).map fun (x, _) => ":" ++ x ++ ":"
        report ⟨doc, some r.line, ["more than one target found for 'any' cross-reference " ++
          quoteValue r.target ++ ": could be " ++ " or ".intercalate roles]⟩
      return [node.addClassesToFirst [roleDomain role, role.replace ":" "-"]]

mutual
def resolveDraft (p : Project) (doc : String) : Draft → Resolver (List Node)
  | .done n => pure [n]
  | .element tag attrs children => do
    return [.element tag attrs (← resolveDrafts p doc children)]
  | .reference r => resolveReference p doc r
  | .contents _ => pure []

def resolveDrafts (p : Project) (doc : String) : List Draft → Resolver (List Node)
  | [] => pure []
  | d :: ds => do
    let first ← resolveDraft p doc d
    let rest ← resolveDrafts p doc ds
    return first ++ rest
end

def tableWarnings (p : Project) : Nat → List String → String → Contents → List Warning
  | 0, _, _, _ => []
  | fuel + 1, parents, doc, t =>
    t.entries.flatMap fun e =>
      if parents.contains e then
        [⟨e, none, ["circular toctree references detected, ignoring: " ++
          " <- ".intercalate (e :: parents)]⟩]
      else
        let inner := p.tables e
        (if inner.isEmpty then
          [⟨doc, some t.line, ["toctree contains reference to document " ++ quoteValue e ++
            " that doesn't have a title: no link will be generated"]⟩] else []) ++
          (inner.filter (!·.hidden)).flatMap (tableWarnings p fuel (e :: parents) e)

def resolveDocument (p : Project) (doc : String) (drafts : List Draft) :
    Except Error (List Node × List Warning) := do
  let (nodes, warnings) ← (resolveDrafts p doc drafts).run []
  let tables := (Draft.tablesAll drafts).filter (!·.hidden)
  return (nodes, warnings ++ tables.flatMap (tableWarnings p (p.docs.length + 1) [] doc))

end NetApiDoc.Build
