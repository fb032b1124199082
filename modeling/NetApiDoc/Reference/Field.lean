import NetApiDoc.Reference.Split
import NetApiDoc.Doc.Node

set_option autoImplicit false

namespace NetApiDoc.Reference

open NetApiDoc.Text

def RefPart.shownAndTarget (p : RefPart) : String × String :=
  match p.target, p.name.toList with
  | none, '.' :: rest => (String.ofList rest, String.ofList (rest.drop 1))
  | none, '~' :: rest => (String.ofList rest, String.ofList (lastPart rest))
  | some t, _ => (p.name, t)
  | none, _ => (p.name, p.name)

def pendingRef (domain role : String) (p : RefPart) : Node :=
  let (shown, target) := p.shownAndTarget
  .element "pending_xref"
    [("refdomain", .str domain), ("refexplicit", .bool false), ("reftype", .str role),
      ("reftarget", .str target), ("refspecific", .bool true)]
    [.text shown]

/-- One part taken, innermost first: its reference, then, between angle brackets, the tree of
the parts inside it, if there is one. -/
def wrapPart (domain role : String) (inside : Option Node) (p : RefPart) : Option Node :=
  match inside with
  | none => some (.element "inline" [] [pendingRef domain role p])
  | some n => some (.element "inline" [] [pendingRef domain role p, .text "<", n, .text ">"])

def wrapParts (domain role : String) (parts : List RefPart) : Option Node :=
  parts.reverse.foldl (wrapPart domain role) none

/-- The node of a field's type reference, wrapped in the element `inner`. Without a role the
given content, when it is a nonempty text, stands alone; else the target as text. -/
def fieldReference (role : Option String) (domain target inner : String)
    (content : Option String) : Node :=
  match role with
  | some r =>
    if r.isEmpty then plain else .element inner [] (wrapParts domain r (split target)).toList
  | none => plain
where
  plain : Node :=
    match content with
    | some c => if c.isEmpty then Node.withText inner [] target else .text c
    | none => Node.withText inner [] target

end NetApiDoc.Reference
