import PodManual.Text.Case

/-!
# Dialects

Documentation is embedded in the comments of source files, so each language has
its way of leading in a comment line and of turning the name of a class or
module into the path of its file.  A dialect is a language under a name,
together with the file extensions that it serves.
-/

namespace PodManual

/-- The languages whose comments are understood; `plain` has no comments. -/
inductive Language where
  | plain
  | php
  | js
  | perl
  deriving DecidableEq, Repr

/-- A language, the name of the dialect, and the extensions that it serves. -/
structure Dialect where
  language : Language
  name : Text
  extensions : List Text
  deriving DecidableEq, Repr

namespace Language

/-- The marks that lead in a comment line. -/
def leadIns : Language -> List Text
  | .plain => []
  | .php => ["/*".toList, "//".toList, "#".toList]
  | .js => ["//".toList, "/*".toList]
  | .perl => []

def stripLeadIn (language : Language) (line : Text) : Text :=
  (language.leadIns.findSome? fun mark => Text.after? mark line).getD line

def colonsToSlash : Text -> Text
  | [] => []
  | ':' :: ':' :: rest => '/' :: colonsToSlash rest
  | c :: rest => c :: colonsToSlash rest

def charToSlash (sep : Char) (name : Text) : Text :=
  name.map fun c => if c = sep then '/' else c

/-- The path of the file of a class or module, by the language's convention. -/
def relativePath (language : Language) (name : Text) : Text :=
  match language with
  | .plain => name
  | .php => charToSlash '\\' name ++ ".php".toList
  | .js => charToSlash '.' name ++ ".js".toList
  | .perl => colonsToSlash name ++ ".pm".toList

end Language

namespace Dialect

def plain : Dialect := ⟨.plain, "default".toList, []⟩

def php : Dialect := ⟨.php, "php".toList, ["php".toList]⟩

def js : Dialect := ⟨.js, "js".toList, ["js".toList]⟩

/-- Perl, whose source holds the documentation without comments. -/
def perl : Dialect := ⟨.perl, "perl".toList, ["pl".toList, "pm".toList]⟩

def builtins : List Dialect := [php, js, perl]

def supportedExtensions (dialect : Dialect) : List Text :=
  Text.sortedSet (dialect.extensions.map Text.lower)

end Dialect

end PodManual
