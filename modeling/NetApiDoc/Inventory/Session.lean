import NetApiDoc.Inventory.Resolve
import NetApiDoc.Inventory.ModuleIndex

set_option autoImplicit false

namespace NetApiDoc

structure Listed where
  name : String
  kind : String
  doc : Option String
  deriving DecidableEq, Repr

namespace Inventory

def listing (inv : Inventory) : Except Error (List Listed) :=
  inv.entries.mapM fun (name, e) =>
    match e.kind.bind Kind.ofName? with
    | some k => .ok ⟨name, k.longName, e.doc⟩
    | none => .error (.unknownKind e.kind)

end Inventory

inductive Step
  | add (name : String) (e : Entry)
  | clearDoc (doc : Option String)
  | show
  | find (qualifier : Option String) (name : String) (role : Option String) (mode : SearchMode)
  | list
  | index (docs : List String)
  | resolve (fromDoc : Option String) (role target : String) (qualifier : Option String)
      (specific : Bool)
  | resolveAny (fromDoc : Option String) (target : String) (qualifier : Option String)

inductive Answer
  | objects (entries : List (String × Entry))
  | lookup (l : Lookup)
  | listing (objects : List Listed)
  | index (groups : List (String × List IndexLine))
  | reference (node : Option Node)
  | references (found : List (String × Node))

def literalContent (target : String) : Node := Node.withText "literal" [] target

def Step.run (inv : Inventory) : Step → Inventory × Except Error Answer
  | .add name e => let inv := inv.insert name e; (inv, .ok (.objects inv.entries))
  | .clearDoc doc => let inv := inv.clearDoc doc; (inv, .ok (.objects inv.entries))
  | .show => (inv, .ok (.objects inv.entries))
  | .find q name role mode => (inv, Answer.lookup <$> inv.find q name role mode)
  | .list => (inv, Answer.listing <$> inv.listing)
  | .index docs => (inv, Answer.index <$> inv.moduleIndex docs)
  | .resolve fromDoc role target q specific =>
    (inv, Answer.reference <$>
      inv.resolve .pages fromDoc role target q specific (literalContent target))
  | .resolveAny fromDoc target q =>
    (inv, Answer.references <$> inv.resolveAny .pages fromDoc target q (literalContent target))

def Step.runAll (inv : Inventory) : List Step → List (Except Error Answer)
  | [] => []
  | s :: ss =>
    let (inv', a) := s.run inv
    a :: Step.runAll inv' ss

end NetApiDoc
