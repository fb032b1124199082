/-!
Document trees: text, and elements with a tag, attributes and children. Attribute values are
the few shapes that documents hold: nothing, truth values, numbers, texts and lists of values.
-/

set_option autoImplicit false

namespace NetApiDoc

inductive Value
  | null
  | bool (b : Bool)
  | int (n : Int)
  | str (s : String)
  | list (items : List Value)
  deriving Repr

inductive Node
  | text (s : String)
  | element (tag : String) (attrs : List (String × Value)) (children : List Node)
  deriving Repr

namespace Node

def withText (tag : String) (attrs : List (String × Value)) (s : String) : Node :=
  .element tag attrs (if s.isEmpty then [] else [.text s])

def optStr : Option String → Value
  | some s => .str s
  | none => .null

mutual
def plainText : Node → String
  | .text s => s
  | .element _ _ children => plainTextAll children

def plainTextAll : List Node → String
  | [] => ""
  | n :: ns => n.plainText ++ plainTextAll ns
end

def classesOf (attrs : List (String × Value)) : List Value :=
  match attrs.lookup "classes" with
  | some (.list cs) => cs
  | _ => []

def addClasses (extra : List String) : Node → Node
  | .text s => .text s
  | .element tag attrs children =>
    let classes := Value.list (classesOf attrs ++ extra.map Value.str)
    let attrs := if (attrs.lookup "classes").isSome then
        attrs.map fun (k, v) => if k == "classes" then (k, classes) else (k, v)
      else attrs ++ [("classes", classes)]
    .element tag attrs children

def addClassesToFirst (extra : List String) : Node → Node
  | .element tag attrs (c :: cs) => .element tag attrs (c.addClasses extra :: cs)
  | n => n

@[simp] theorem plainText_text (s : String) : (Node.text s).plainText = s := by
  simp [plainText]

end Node

end NetApiDoc
