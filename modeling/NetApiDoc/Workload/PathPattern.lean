/-!
File patterns that leave files out of a line measurement. A pattern is read piece by piece: a
run of `*` that opens the pattern before a slash, and `**/` anywhere, match any leading
directories or none; a slash and stars that end the pattern match a slash and anything after;
`*` matches a run of characters within one path segment and `?` one of them; brackets hold a
class of characters; letters, digits, `_` and `-` match themselves, and so does any other
character. A pattern without a slash matches in any directory. Three stars, or two stars
against other characters of a segment, have no meaning and make the pattern invalid, as does a
lone bracket.

A pattern that does not open with a wildcard also stands for the path it names under the
working directory. A file is left out when any pattern matches its whole path.
-/

set_option autoImplicit false

namespace NetApiDoc.Workload

inductive PathPiece
  | anyDirs
  | anyTail
  | slash
  | run
  | one
  | oneOf (negated : Bool) (ranges : List (Char × Char))
  | char (c : Char)
  deriving DecidableEq, Repr

def starsAfterText : List Char → Bool
  | c :: rest => c != '/' && afterFirst rest
  | [] => false
where
  afterFirst : List Char → Bool
    | '*' :: '*' :: _ => true
    | c :: rest => c != '/' && afterFirst rest
    | [] => false

def classRanges : List Char → List (Char × Char)
  | a :: '-' :: b :: rest => (a, b) :: classRanges rest
  | a :: rest => (a, a) :: classRanges rest
  | [] => []

def isPatternWordChar (c : Char) : Bool := c.isAlphanum || c == '_' || c == '-'

def pathPieces : Nat → Bool → List Char → Except String (List PathPiece)
  | 0, _, _ => .ok []
  | _, _, [] => .ok []
  | fuel + 1, atStart, cs =>
    let stars := cs.takeWhile (· == '*')
    let afterStars := cs.drop stars.length
    if 3 ≤ stars.length then .error (String.ofList stars)
    else if starsAfterText cs then .error (String.ofList (cs.takeWhile (· != '/')))
    else if stars.length == 2 && !afterStars.isEmpty && afterStars.head? != some '/' then
      .error (String.ofList (cs.takeWhile (· != '/')))
    else if cs.take 5 == "**/**".toList then .error "**/**"
    else if atStart && 1 ≤ stars.length && afterStars.head? == some '/' then
      (PathPiece.anyDirs :: ·) <$> pathPieces fuel false (afterStars.drop 1)
    else match cs with
      | '/' :: rest =>
        let tail := rest.takeWhile (· == '*')
        if 1 ≤ tail.length && tail.length == rest.length then .ok [.anyTail]
        else (PathPiece.slash :: ·) <$> pathPieces fuel false rest
      | '*' :: '*' :: '/' :: rest => (PathPiece.anyDirs :: ·) <$> pathPieces fuel false rest
      | '*' :: rest => (PathPiece.run :: ·) <$> pathPieces fuel false rest
      | '?' :: rest => (PathPiece.one :: ·) <$> pathPieces fuel false rest
      | '[' :: rest =>
        match rest.span (· != ']') with
        | (members, _ :: after) =>
          let piece := match members with
            | '^' :: more => PathPiece.oneOf true (classRanges more)
            | _ => PathPiece.oneOf false (classRanges members)
          (piece :: ·) <$> pathPieces fuel false after
        | (_, []) => .error "["
      | ']' :: _ => .error "]"
      | c :: rest => (PathPiece.char c :: ·) <$> pathPieces fuel false rest
      | [] => .ok []

def inClass (negated : Bool) (ranges : List (Char × Char)) (c : Char) : Bool :=
  ranges.any (fun (a, b) => a ≤ c && c ≤ b) != negated

def matchPieces : List PathPiece → List Char → Bool
  | [], cs => cs.isEmpty
  | .anyDirs :: ps, cs =>
    matchPieces ps cs ||
      (List.range cs.length).any fun i => cs[i]? == some '/' && matchPieces ps (cs.drop (i + 1))
  | .anyTail :: ps, cs =>
    cs.head? == some '/' && (List.range cs.length).any fun i => matchPieces ps (cs.drop (i + 1))
  | .slash :: ps, cs => cs.head? == some '/' && matchPieces ps (cs.drop 1)
  | .run :: ps, cs =>
    (List.range ((cs.takeWhile (· != '/')).length + 1)).any fun k => matchPieces ps (cs.drop k)
  | .one :: ps, c :: cs => c != '/' && matchPieces ps cs
  | .oneOf negated ranges :: ps, c :: cs => inClass negated ranges c && matchPieces ps cs
  | .char d :: ps, c :: cs => c == d && matchPieces ps cs
  | _ :: _, [] => false

def normalPath (steps : List String) : List String :=
  steps.foldl (fun acc s =>
    if s.isEmpty || s == "." then acc else if s == ".." then acc.dropLast else acc ++ [s]) []

def underDirectory (cwd pattern : String) : String :=
  let full := if pattern.startsWith "/" then pattern else cwd ++ "/" ++ pattern
  "/" ++ "/".intercalate (normalPath (full.splitOn "/"))

def preparedPatterns (cwd pattern : String) : List String :=
  if pattern.startsWith "*" || pattern.startsWith "?" then [pattern]
  else [pattern, underDirectory cwd pattern]

def patternPieces (pattern : String) : Except String (List PathPiece) :=
  let cs := pattern.toList.map fun c => if c == Char.ofNat 92 then '/' else c
  let cs := if cs.contains '/' then cs else "**/".toList ++ cs
  pathPieces cs.length true cs

def leavesOut (cwd : String) (patterns : List String) (path : String) : Except String Bool := do
  let pieces ← (patterns.flatMap (preparedPatterns cwd)).mapM patternPieces
  return pieces.any fun ps => matchPieces ps path.toList

end NetApiDoc.Workload
