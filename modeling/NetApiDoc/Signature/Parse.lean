import NetApiDoc.Signature.Grammar
import NetApiDoc.Signature.Basic

set_option autoImplicit false

namespace NetApiDoc.Signature

inductive Shape
  | container
  | callable
  | constructor
  deriving DecidableEq, Repr

def atEnd : List Char → Bool
  | [] => true
  | ['\n'] => true
  | _ => false

def argumentsThenEnd (s : List Char) : Option (Option (List Char)) :=
  let withList : Option (Option (List Char)) :=
    match s with
    | '(' :: cs =>
      match cs.dropWhile (· != ')') with
      | ')' :: t => if atEnd t then some (some (cs.takeWhile (· != ')'))) else none
      | _ => none
    | _ => none
  match withList with
  | some a => some a
  | none => if atEnd s then some none else none

def tailAfterMember : Shape → List Char → Option (Option (List Char))
  | .container, s => if atEnd s then some none else none
  | _, s => argumentsThenEnd s

def constructorName : List Char := ['#', 'c', 't', 'o', 'r']

def memberThenTail (shape : Shape) (s : List Char) : Option (Nat × Option (List Char)) :=
  let k : Cont (Nat × Option (List Char)) := fun r => (tailAfterMember shape r).map (r.length, ·)
  match shape with
  | .constructor =>
    let literal := if constructorName.isPrefixOf s then k (s.drop constructorName.length) else none
    match literal with
    | some a => some a
    | none => memberName s k
  | _ => memberName s k

def readUnqualified (shape : Shape) (s : List Char) : Option (List Char × Option (List Char)) :=
  (memberThenTail shape s).map fun (n, a) => (s.take (s.length - n), a)

/-- The ways to split a qualifier off a text: a nonempty newline-free text and a dot, the
longest qualifier first. Each way is the qualifier and what follows the dot. -/
def qualifierSplits : List Char → List (List Char × List Char)
  | [] => []
  | c :: cs =>
    if c == '\n' then []
    else
      (qualifierSplits cs).map (fun (p, r) => (c :: p, r)) ++
        match cs with
        | '.' :: r => [([c], r)]
        | _ => []

def readLine (shape : Shape) (s : List Char) :
    Option (Option (List Char) × List Char × Option (List Char)) :=
  let qualified := (qualifierSplits s).findSome? fun (p, r) =>
    (readUnqualified shape r).map fun (m, a) => (some p, m, a)
  match qualified with
  | some x => some x
  | none => (readUnqualified shape s).map fun (m, a) => (none, m, a)

end NetApiDoc.Signature

namespace NetApiDoc

open Signature

def Signature.read (shape : Shape) (text : String) : Except Error Signature :=
  match readLine shape text.toList with
  | some (q, m, a) =>
    .ok { qualifier := q.map String.ofList, member := String.ofList m,
          arguments := a.map fun g => splitArguments (String.ofList g) }
  | none => .error (.unreadableSignature text)

end NetApiDoc
