import NetApiDoc.Signature.Parse

set_option autoImplicit false

namespace NetApiDoc

open Signature

inductive Kind
  | ns | cls | struct | iface | del | enum
  | meth | prop | ctor | field | event | op
  deriving DecidableEq, Repr

namespace Kind

def all : List Kind := [ns, cls, struct, iface, del, enum, meth, prop, ctor, field, event, op]

def shortName : Kind → String
  | ns => "ns" | cls => "cls" | struct => "struct" | iface => "iface" | del => "del"
  | enum => "enum" | meth => "meth" | prop => "prop" | ctor => "ctor" | field => "field"
  | event => "event" | op => "op"

def longName : Kind → String
  | ns => "namespace" | cls => "class" | struct => "structure" | iface => "interface"
  | del => "delegate" | enum => "enumeration" | meth => "method" | prop => "property"
  | ctor => "constructor" | field => "field" | event => "event" | op => "operator"

def typeName : Kind → String
  | ns => "DotNetNamespace" | cls => "DotNetClass" | struct => "DotNetStructure"
  | iface => "DotNetInterface" | del => "DotNetDelegate" | enum => "DotNetEnumeration"
  | meth => "DotNetMethod" | prop => "DotNetProperty" | ctor => "DotNetConstructor"
  | field => "DotNetField" | event => "DotNetEvent" | op => "DotNetOperator"

def isContainer : Kind → Bool
  | ns | cls | struct | iface | del | enum => true
  | _ => false

def shape (k : Kind) : Shape :=
  if k.isContainer then .container else if k = ctor then .constructor else .callable

def hasArguments (k : Kind) : Bool :=
  !k.isContainer && k != prop

def displayPrefix : Kind → Option String
  | ns => some "namespace " | cls => some "class " | struct => some "struct "
  | iface => some "interface " | del => some "delegate " | enum => some "enum "
  | _ => none

def ofName? (name : String) : Option Kind :=
  all.find? fun k => k.shortName == name || k.longName == name

def ofLongName? (name : String) : Option Kind :=
  all.find? fun k => k.longName == name

theorem ofName?_shortName (k : Kind) : ofName? k.shortName = some k := by
  cases k <;> rfl

theorem ofName?_longName (k : Kind) : ofName? k.longName = some k := by
  cases k <;> rfl

theorem ofLongName?_longName (k : Kind) : ofLongName? k.longName = some k := by
  cases k <;> rfl

end Kind

inductive Directive
  | generic
  | container
  | callable
  | ofKind (k : Kind)
  deriving DecidableEq, Repr

namespace Directive

def ofName? (name : String) : Option Directive :=
  match name with
  | "object" => some generic
  | "nested" => some container
  | "callable" => some callable
  | _ => (Kind.ofName? name).map ofKind

def shape? : Directive → Option Shape
  | generic => none
  | container => some .container
  | callable => some .callable
  | ofKind k => some k.shape

def longName? : Directive → Option String
  | ofKind k => some k.longName
  | _ => none

def shortName? : Directive → Option String
  | ofKind k => some k.shortName
  | _ => none

def readSignature (d : Directive) (text : String) : Except Error Signature :=
  match d.shape? with
  | some shape => Signature.read shape text
  | none => .error .noGrammar

end Directive

end NetApiDoc
