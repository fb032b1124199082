import NetApiDoc.Text.Blank

set_option autoImplicit false

namespace NetApiDoc.Build

def resolveSteps (kept : List String) : List String → List String
  | [] => kept.reverse
  | s :: rest =>
    if s.isEmpty || s == "." then resolveSteps kept rest
    else if s == ".." then resolveSteps kept.tail rest
    else resolveSteps (s :: kept) rest

def joinDocName (base name : String) : String :=
  let path := if name.startsWith "/" then name else "/" ++ base ++ "/../" ++ name
  let steps := resolveSteps [] (path.splitOn "/")
  let lead := if path.startsWith "//" && !path.startsWith "///" then "/" else ""
  lead ++ "/".intercalate steps

def dropSourceSuffix (name : String) : String :=
  if name.endsWith ".rst" then String.ofList (name.toList.take (name.length - 4)) else name

def isAddress (entry : String) : Bool :=
  match entry.toList with
  | _ :: rest => (List.range rest.length).any fun i => (rest.drop i).take 3 == [':', '/', '/']
  | [] => false

def isGlob (entry : String) : Bool :=
  entry.toList.any fun c => c == '*' || c == '?' || c == '['

inductive GlobPiece
  | anything
  | segment
  | one
  | chars (negated : Bool) (ranges : List (Char × Char))
  | literal (c : Char)
  deriving DecidableEq, Repr

def setRanges : List Char → List (Char × Char)
  | a :: '-' :: b :: rest => (a, b) :: setRanges rest
  | c :: rest => (c, c) :: setRanges rest
  | [] => []

def bracketSet (cs : List Char) : Option (GlobPiece × List Char) :=
  let (negated, body) := match cs with
    | '!' :: r => (true, r)
    | r => (false, r)
  let (first, more) := match body with
    | ']' :: r => ([']'], r)
    | r => ([], r)
  match more.span (· != ']') with
  | (inside, _ :: rest) => some (.chars negated (setRanges (first ++ inside)), rest)
  | (_, []) => none

def globPieces : Nat → List Char → List GlobPiece
  | 0, _ => []
  | _, [] => []
  | fuel + 1, '*' :: '*' :: rest => .anything :: globPieces fuel rest
  | fuel + 1, '*' :: rest => .segment :: globPieces fuel rest
  | fuel + 1, '?' :: rest => .one :: globPieces fuel rest
  | fuel + 1, '[' :: rest =>
    match bracketSet rest with
    | some (p, after) => p :: globPieces fuel after
    | none => .literal '[' :: globPieces fuel rest
  | fuel + 1, c :: rest => .literal c :: globPieces fuel rest

def inRanges (c : Char) (ranges : List (Char × Char)) : Bool :=
  ranges.any fun (a, b) => a ≤ c && c ≤ b

def globMatch : List GlobPiece → List Char → Bool
  | [], cs => cs.isEmpty
  | .anything :: ps, cs => (List.range (cs.length + 1)).any fun i => globMatch ps (cs.drop i)
  | .segment :: ps, cs =>
    (List.range ((cs.takeWhile (· != '/')).length + 1)).any fun i => globMatch ps (cs.drop i)
  | .one :: ps, c :: cs => c != '/' && globMatch ps cs
  | .chars negated ranges :: ps, c :: cs =>
    (if negated then !inRanges c ranges && c != '/' else inRanges c ranges) && globMatch ps cs
  | .literal d :: ps, c :: cs => c == d && globMatch ps cs
  | _ :: _, [] => false

def globMatches (pattern name : String) : Bool :=
  globMatch (globPieces pattern.length pattern.toList) name.toList

end NetApiDoc.Build
