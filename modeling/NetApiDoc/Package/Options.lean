import NetApiDoc.Package.Metadata

set_option autoImplicit false

namespace NetApiDoc.Package

inductive Effect
  | global
  | help
  | listCommands
  | displays (f : Field)
  deriving DecidableEq, Repr

structure CliOption where
  long : String
  short : Option Char
  takesValue : Bool
  help : String
  effect : Effect
  deriving DecidableEq, Repr

def globalOptions : List CliOption := [
  ⟨"verbose", some 'v', false, "run verbosely (default)", .global⟩,
  ⟨"quiet", some 'q', false, "run quietly (turns verbosity off)", .global⟩,
  ⟨"dry-run", some 'n', false, "don't actually do anything", .global⟩,
  ⟨"help", some 'h', false, "show detailed help message", .help⟩,
  ⟨"no-user-cfg", none, false, "ignore pydistutils.cfg in your home directory", .global⟩]

def toplevelOptions : List CliOption :=
  globalOptions ++
    [⟨"command-packages", none, true, "list of packages that provide distutils commands",
      .global⟩]

def displayOptions : List CliOption := [
  ⟨"help-commands", none, false, "list all available commands", .listCommands⟩,
  ⟨"name", none, false, "print package name", .displays .name⟩,
  ⟨"version", some 'V', false, "print package version", .displays .version⟩,
  ⟨"fullname", none, false, "print <package name>-<version>", .displays .fullname⟩,
  ⟨"author", none, false, "print the author's name", .displays .author⟩,
  ⟨"author-email", none, false, "print the author's email address", .displays .authorEmail⟩,
  ⟨"maintainer", none, false, "print the maintainer's name", .displays .maintainer⟩,
  ⟨"maintainer-email", none, false, "print the maintainer's email address",
    .displays .maintainerEmail⟩,
  ⟨"contact", none, false, "print the maintainer's name if known, else the author's",
    .displays .contact⟩,
  ⟨"contact-email", none, false,
    "print the maintainer's email address if known, else the author's", .displays .contactEmail⟩,
  ⟨"url", none, false, "print the URL for this package", .displays .url⟩,
  ⟨"license", none, false, "print the license of the package", .displays .license⟩,
  ⟨"licence", none, false, "alias for --license", .displays .license⟩,
  ⟨"description", none, false, "print the package description", .displays .description⟩,
  ⟨"long-description", none, false, "print the long package description",
    .displays .longDescription⟩,
  ⟨"platforms", none, false, "print the list of platforms", .displays .platforms⟩,
  ⟨"classifiers", none, false, "print the list of classifiers", .displays .classifiers⟩,
  ⟨"keywords", none, false, "print the list of keywords", .displays .keywords⟩,
  ⟨"provides", none, false, "print the list of packages/modules provided", .displays .provides⟩,
  ⟨"requires", none, false, "print the list of packages/modules required", .displays .requires⟩,
  ⟨"obsoletes", none, false, "print the list of packages/modules made obsolete",
    .displays .obsoletes⟩]

def commandLineOptions : List CliOption := toplevelOptions ++ displayOptions

def findLong (options : List CliOption) (name : String) : Except String CliOption :=
  match options.find? (·.long == name) with
  | some o => .ok o
  | none =>
    match options.filter (·.long.startsWith name) with
    | [o] => .ok o
    | [] => .error ("option --" ++ name ++ " not recognized")
    | _ => .error ("option --" ++ name ++ " not a unique prefix")

def findShort (options : List CliOption) (c : Char) : Except String CliOption :=
  match options.find? (·.short == some c) with
  | some o => .ok o
  | none => .error ("option -" ++ String.singleton c ++ " not recognized")

def readShorts (options : List CliOption) (letters : List Char) : Except String (List CliOption) :=
  letters.mapM (findShort options)

def readOptions (options : List CliOption) :
    Nat → List String → Except String (List CliOption × List String)
  | 0, words => .ok ([], words)
  | _, [] => .ok ([], [])
  | fuel + 1, w :: ws =>
    if w == "--" then .ok ([], ws)
    else match w.toList with
      | '-' :: '-' :: long => do
        let (name, value) := match long.span (· != '=') with
          | (n, _ :: v) => (String.ofList n, some (String.ofList v))
          | (n, []) => (String.ofList n, none)
        let o ← findLong options name
        let rest ← if o.takesValue then
            match value, ws with
            | some _, _ => pure ws
            | none, _ :: more => pure more
            | none, [] => throw ("option --" ++ o.long ++ " requires argument")
          else match value with
            | some _ => throw ("option --" ++ o.long ++ " must not have an argument")
            | none => pure ws
        let (more, after) ← readOptions options fuel rest
        return (o :: more, after)
      | '-' :: c :: cs => do
        let given ← readShorts options (c :: cs)
        let (more, after) ← readOptions options fuel ws
        return (given ++ more, after)
      | _ => .ok ([], w :: ws)

end NetApiDoc.Package
