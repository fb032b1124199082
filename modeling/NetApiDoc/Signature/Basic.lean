import NetApiDoc.Text.Blank
import NetApiDoc.Error

set_option autoImplicit false

namespace NetApiDoc

open NetApiDoc.Text

structure Signature where
  qualifier : Option String
  member : String
  arguments : Option (List String)
  deriving DecidableEq, Repr

namespace Signature

def partText : Option String → String
  | some s => s
  | none => "None"

def fullName (sig : Signature) : String :=
  match sig.qualifier with
  | some q => q ++ "." ++ sig.member
  | none => sig.member

def display (sig : Signature) : String :=
  partText sig.qualifier ++ "." ++ sig.member

def joinParts : Option String → Option String → Except Error (Option String)
  | some q, some m => .ok (some (q ++ "." ++ m))
  | some _, none => .error .missingMember
  | none, m => .ok m

def displayParts (q m : Option String) : String :=
  partText q ++ "." ++ partText m

theorem joinParts_some (sig : Signature) :
    joinParts sig.qualifier (some sig.member) = .ok (some sig.fullName) := by
  cases h : sig.qualifier <;> simp [joinParts, fullName, h]

theorem displayParts_some (sig : Signature) :
    displayParts sig.qualifier (some sig.member) = sig.display := rfl

end Signature

def argumentPiecesFrom (skipping : Bool) : List Char → List (List Char)
  | [] => [[]]
  | c :: cs =>
    if skipping && isBlank c then argumentPiecesFrom true cs
    else if c == ',' && (match cs with | d :: _ => isBlank d | [] => false) then
      [] :: argumentPiecesFrom true cs
    else
      match argumentPiecesFrom false cs with
      | p :: ps => (c :: p) :: ps
      | [] => [[c]]

/-- The arguments of an argument text: the pieces between separators, a separator being a
comma and the run of blanks after it. An empty text is one empty argument. -/
def splitArguments (text : String) : List String :=
  (argumentPiecesFrom false text.toList).map String.ofList

end NetApiDoc
