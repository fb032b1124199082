import NetApiDoc.Package.Help

set_option autoImplicit false

namespace NetApiDoc.Package

structure Outcome where
  output : String
  stopped : Option String
  deriving DecidableEq, Repr

def usageError (reason : String) : Outcome := ⟨"", some (usageText ++ "\nerror: " ++ reason)⟩

def informational (words : List String) : Bool :=
  words.all (·.startsWith "-") || words.contains "--help"

def isCommandName (w : String) : Bool :=
  match w.toList with
  | c :: rest => c.isAlpha && rest.all fun d => d.isAlphanum || d == '_'
  | [] => false

def askedFields (given : List CliOption) : List Field :=
  given.filterMap fun o => match o.effect with
    | .displays f => some f
    | _ => none

def runSetup (m : Metadata) (words : List String) : Outcome :=
  match readOptions commandLineOptions words.length words with
  | .error reason => usageError reason
  | .ok (given, commands) =>
    if given.any (·.effect == .listCommands) then ⟨commandsText, none⟩
    else match askedFields given with
    | f :: fs => ⟨String.join ((f :: fs).map fun f => m.display f ++ "\n"), none⟩
    | [] =>
      match commands with
      | [] =>
        if given.any (·.effect == .help) then ⟨helpText [], none⟩
        else usageError "no commands supplied"
      | first :: _ =>
        if !isCommandName first then ⟨"", some ("invalid command name '" ++ first ++ "'")⟩
        else if !knownCommands.contains first then
          usageError ("invalid command '" ++ first ++ "'")
        else ⟨helpText [first], none⟩

end NetApiDoc.Package
