/-!
The metadata of the distribution package that ships the domain, as its setup script declares
it, and the metadata fields that the setup command line can show. A missing name shows as
`UNKNOWN`, a missing version as `0.0.0`; other missing texts show as `None` and missing lists
as nothing. The contact is the maintainer if there is one, else the author.
-/

set_option autoImplicit false

namespace NetApiDoc.Package

structure Metadata where
  name : Option String
  version : Option String
  url : Option String
  downloadUrl : Option String
  license : Option String
  author : Option String
  authorEmail : Option String
  maintainer : Option String
  maintainerEmail : Option String
  description : Option String
  longDescription : Option String
  classifiers : List String
  platforms : List String
  keywords : List String
  provides : List String
  requires : List String
  obsoletes : List String
  namespacePackages : List String
  deriving DecidableEq, Repr

def domainPackage : Metadata where
  name := some "sphinxcontrib-dotnetdomain"
  version := some "0.4"
  url := some "http://github.com/rtfd/sphinxcontrib-dotnetdomain"
  downloadUrl := some "http://pypi.python.org/pypi/sphinxcontrib-dotnetdomain"
  license := some "MIT"
  author := some "Anthony Johnson"
  authorEmail := some "aj@ohess.org"
  maintainer := none
  maintainerEmail := none
  description := some "Sphinx \"dotnetdomain\" extension"
  longDescription := some "Sphinx .NET domain\n\nDomain to support .NET languages.\n"
  classifiers := [
    "Development Status :: 2 - Pre-Alpha",
    "Environment :: Console",
    "Environment :: Web Environment",
    "Intended Audience :: Developers",
    "License :: OSI Approved :: MIT License",
    "Operating System :: OS Independent",
    "Programming Language :: Python",
    "Topic :: Documentation",
    "Topic :: Utilities"]
  platforms := ["any"]
  keywords := []
  provides := []
  requires := []
  obsoletes := []
  namespacePackages := ["sphinxcontrib"]

inductive Field
  | name | version | fullname | author | authorEmail | maintainer | maintainerEmail
  | contact | contactEmail | url | license | description | longDescription | platforms
  | classifiers | keywords | provides | requires | obsoletes
  deriving DecidableEq, Repr

namespace Metadata

def showText : Option String → String
  | some s => s
  | none => "None"

def shownName (m : Metadata) : String := m.name.getD "UNKNOWN"

def shownVersion (m : Metadata) : String := m.version.getD "0.0.0"

def display (m : Metadata) : Field → String
  | .name => m.shownName
  | .version => m.shownVersion
  | .fullname => m.shownName ++ "-" ++ m.shownVersion
  | .author => showText m.author
  | .authorEmail => showText m.authorEmail
  | .maintainer => showText m.maintainer
  | .maintainerEmail => showText m.maintainerEmail
  | .contact => showText (m.maintainer.orElse fun _ => m.author)
  | .contactEmail => showText (m.maintainerEmail.orElse fun _ => m.authorEmail)
  | .url => showText m.url
  | .license => showText m.license
  | .description => showText m.description
  | .longDescription => showText m.longDescription
  | .platforms => ",".intercalate m.platforms
  | .classifiers => "\n".intercalate m.classifiers
  | .keywords => ",".intercalate m.keywords
  | .provides => "\n".intercalate m.provides
  | .requires => "\n".intercalate m.requires
  | .obsoletes => "\n".intercalate m.obsoletes

def declaresNamespace (m : Metadata) (pkg : String) : Bool := m.namespacePackages.contains pkg

end Metadata

end NetApiDoc.Package
