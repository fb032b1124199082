import NetApiDoc.Package.Options

set_option autoImplicit false

namespace NetApiDoc.Package

def samePiece (c d : Char) : Bool :=
  if c == ' ' then d == ' ' else if c == '-' then d == '-' else d != ' ' && d != '-'

theorem samePiece_self (c : Char) : samePiece c c = true := by
  unfold samePiece
  by_cases h1 : c = ' ' <;> by_cases h2 : c = '-' <;> simp_all

def textPieces : List Char → List (List Char)
  | [] => []
  | c :: rest =>
    let run := (c :: rest).takeWhile (samePiece c)
    run :: textPieces ((c :: rest).drop run.length)
termination_by cs => cs.length
decreasing_by
  simp only [List.length_drop, List.length_cons, List.takeWhile_cons, samePiece_self,
    if_true]
  omega

def fillLine (width : Nat) : List (List Char) → Nat → List (List Char) × List (List Char)
  | [], _ => ([], [])
  | p :: ps, used =>
    if used + p.length ≤ width then
      let (more, left) := fillLine width ps (used + p.length)
      (p :: more, left)
    else ([], p :: ps)

def wrapPieces (width : Nat) : Nat → List (List Char) → List String
  | 0, _ => []
  | _, [] => []
  | fuel + 1, pieces =>
    let (taken, left) := fillLine width pieces 0
    let taken := if (left.isEmpty || taken.isEmpty) then taken
      else match taken.getLast? with
        | some (' ' :: _) => taken.dropLast
        | _ => taken
    let (taken, left) := match taken, left with
      | [], p :: ps => ([p.take width], p.drop width :: ps)
      | _, _ => (taken, left)
    let left := match left with
      | (' ' :: _) :: ps => ps
      | ps => ps
    String.ofList taken.flatten :: wrapPieces width fuel left

def wrapText (width : Nat) (text : String) : List String :=
  if text.length ≤ width then [text]
  else
    let cs := text.toList.map fun c => if c == '\t' || c == '\n' || c == '\r' then ' ' else c
    wrapPieces width (cs.length + 1) (textPieces cs)

def padRight (width : Nat) (s : String) : String :=
  s ++ String.ofList (List.replicate (width - s.length) ' ')

def CliOption.listedName (o : CliOption) : String :=
  match o.short with
  | some c => o.long ++ " (-" ++ String.singleton c ++ ")"
  | none => o.long

def optionTable (header : String) (options : List CliOption) : List String :=
  let widest := (options.map (·.listedName.length)).foldl max 0
  let indent := String.ofList (List.replicate (widest + 6) ' ')
  header :: options.flatMap fun o =>
    match wrapText (78 - (widest + 6)) o.help with
    | first :: more =>
      ("  --" ++ padRight widest o.listedName ++ "  " ++ first) :: more.map (indent ++ ·)
    | [] => ["  --" ++ padRight widest o.listedName ++ (if o.short.isSome then "" else "  ")]

def usageText : String :=
  "usage: setup.py [global_opts] cmd1 [cmd1_opts] [cmd2 [cmd2_opts] ...]\n" ++
  "   or: setup.py --help [cmd1 cmd2 ...]\n" ++
  "   or: setup.py --help-commands\n" ++
  "   or: setup.py cmd --help\n"

def commonUsage : String :=
  "Common commands: (see '--help-commands' for more)\n\n" ++
  "  setup.py build      will build the package underneath 'build/'\n" ++
  "  setup.py install    will install the package\n"

def helpText (commands : List String) : String :=
  let globals := optionTable (commonUsage ++ "\nGlobal options:")
    (if commands.isEmpty then toplevelOptions else globalOptions)
  let displays := if commands.isEmpty then
      optionTable "Information display options (just display information, ignore any commands)"
        displayOptions ++ [""]
    else []
  String.join ((globals ++ [""] ++ displays ++ [usageText]).map (· ++ "\n"))

def standardCommands : List (String × String) := [
  ("build", "build everything needed to install"),
  ("build_py", "\"build\" pure Python modules (copy to build directory)"),
  ("build_ext", "build C/C++ extensions (compile/link to build directory)"),
  ("build_clib", "build C/C++ libraries used by Python extensions"),
  ("build_scripts", "\"build\" scripts (copy and fixup #! line)"),
  ("clean", "clean up temporary files from 'build' command"),
  ("install", "install everything from build directory"),
  ("install_lib", "install all Python modules (extensions and pure Python)"),
  ("install_headers", "install C/C++ header files"),
  ("install_scripts", "install scripts (Python or otherwise)"),
  ("install_data", "install data files"),
  ("sdist", "create a source distribution (tarball, zip file, etc.)"),
  ("register", "register the distribution with the Python package index"),
  ("bdist", "create a built (binary) distribution"),
  ("bdist_dumb", "create a \"dumb\" built distribution"),
  ("bdist_rpm", "create an RPM distribution"),
  ("check", "perform some checks on the package"),
  ("upload", "upload binary package to PyPI")]

def extraCommands : List (String × String) := [
  ("build_sphinx", "Build Sphinx documentation"),
  ("bdist_wheel", "create a wheel distribution"),
  ("alias", "define a shortcut to invoke one or more commands"),
  ("bdist_egg", "create an \"egg\" distribution"),
  ("develop", "install package in 'development mode'"),
  ("dist_info", "create a .dist-info directory"),
  ("easy_install", "Find/get/install Python packages"),
  ("editable_wheel", "create a PEP 660 'editable' wheel"),
  ("egg_info", "create a distribution's .egg-info directory"),
  ("install_egg_info", "Install an .egg-info directory for the package"),
  ("rotate", "delete older distributions, keeping N newest files"),
  ("saveopts", "save supplied options to setup.cfg or other config file"),
  ("setopt", "set an option in setup.cfg or another config file"),
  ("test", "run unit tests after in-place build (deprecated)"),
  ("upload_docs", "Upload documentation to sites other than PyPi such as devpi"),
  ("compile_catalog", "compile message catalogs to binary MO files"),
  ("extract_messages", "extract localizable strings from the project code"),
  ("init_catalog", "create a new catalog based on a POT file"),
  ("update_catalog", "update message catalogs from a POT file")]

def knownCommands : List String := (standardCommands ++ extraCommands).map (·.1)

def commandsText : String :=
  let widest := (knownCommands.map String.length).foldl max 0
  let group (header : String) (cmds : List (String × String)) : List String :=
    (header ++ ":") :: cmds.map fun (c, d) => "  " ++ padRight widest c ++ "  " ++ d
  String.join ((group "Standard commands" standardCommands ++ [""] ++
    group "Extra commands" extraCommands ++ ["", usageText]).map (· ++ "\n"))

end NetApiDoc.Package
