import NetApiDoc.Doc.Node

set_option autoImplicit false

namespace NetApiDoc.Build

inductive Wanted
  | domain (role : String)
  | any
  deriving DecidableEq, Repr

structure CrossRef where
  wanted : Wanted
  target : String
  context : Option String
  explicit : Bool
  line : Nat
  content : Node
  deriving Repr

structure Contents where
  line : Nat
  entries : List String
  hidden : Bool
  deriving DecidableEq, Repr

inductive Draft
  | done (n : Node)
  | element (tag : String) (attrs : List (String × Value)) (children : List Draft)
  | reference (r : CrossRef)
  | contents (t : Contents)
  deriving Repr

namespace Draft

mutual
def plainText : Draft → String
  | .done n => n.plainText
  | .element _ _ children => plainTextAll children
  | .reference r => r.content.plainText
  | .contents _ => ""

def plainTextAll : List Draft → String
  | [] => ""
  | d :: ds => d.plainText ++ plainTextAll ds
end

mutual
def tables : Draft → List Contents
  | .done _ => []
  | .element _ _ children => tablesAll children
  | .reference _ => []
  | .contents t => [t]

def tablesAll : List Draft → List Contents
  | [] => []
  | d :: ds => d.tables ++ tablesAll ds
end

def ofText (s : String) : Draft := .done (.text s)

@[simp] theorem tablesAll_append (xs ys : List Draft) :
    tablesAll (xs ++ ys) = tablesAll xs ++ tablesAll ys := by
  induction xs with
  | nil => simp [tablesAll]
  | cons x xs ih => simp [tablesAll, ih]

end Draft

end NetApiDoc.Build
