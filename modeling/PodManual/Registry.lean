import PodManual.Dialect
import PodManual.Failure
import PodManual.Text.Blank

/-!
# Registries

A registry finds the dialect of a file by its extension.  Each dialect is
registered under the extensions that it serves, in lower case; of two dialects
that serve one extension the later counts.  Look-ups ignore letter case and
leading dots and fall back on the default dialect, if there is one.
-/

namespace PodManual

structure Registry where
  entries : List (Text × Dialect)
  default? : Option Dialect
  deriving DecidableEq, Repr

namespace Registry

def entriesOf (dialect : Dialect) : List (Text × Dialect) :=
  dialect.extensions.map fun extension => (Text.lower extension, dialect)

/-- The registry of a list of dialects; it may not be without any dialect. -/
def ofDialects (dialects : List Dialect) (default? : Option Dialect) :
    Except Failure Registry :=
  let entries := (dialects.flatMap entriesOf).reverse
  if entries = [] ∧ default? = none then .error .noDialects
  else .ok ⟨entries, default?⟩

/-- The names asked for, in lower case and without white space at their ends;
blank names ask for nothing. -/
def askedNames (names : List Text) : List Text :=
  (names.filter fun name => Text.strip name != []).map
    fun name => Text.lower (Text.strip name)

def builtin? (name : Text) : Option Dialect :=
  Dialect.builtins.find? fun dialect => dialect.name == name

/-- The registry of built-in dialects chosen by name, all of them without a
choice; the default dialect is the plain one. -/
def ofNames (names? : Option (List Text)) : Except Failure Registry :=
  let available := Dialect.builtins.map Dialect.name
  let selected := match names? with
    | none => available
    | some names => askedNames names
  match selected.filter fun name => (builtin? name).isNone with
  | [] => ofDialects (selected.filterMap builtin?) (some .plain)
  | unknown => .error (.unknownDialects unknown available)

/-- The form of an extension under which dialects are looked up. -/
def normalForm (extension : Text) : Text :=
  (Text.lower extension).dropWhile (· == '.')

def registered? (registry : Registry) (extension : Text) : Option Dialect :=
  (registry.entries.find? fun entry => entry.1 == extension).map Prod.snd

def forExtension (registry : Registry) (extension : Text) : Except Failure Dialect :=
  match registry.registered? (normalForm extension) with
  | some dialect => .ok dialect
  | none =>
      match registry.default? with
      | some dialect => .ok dialect
      | none => .error (.noDialectFor extension)

theorem exists_forExtension {registry : Registry} {fallback : Dialect}
    (h : registry.default? = some fallback) (extension : Text) :
    exists dialect, registry.forExtension extension = .ok dialect := by
  unfold forExtension
  cases registry.registered? (normalForm extension) with
  | some dialect => exact ⟨dialect, rfl⟩
  | none => exact ⟨fallback, by rw [h]⟩

theorem default?_of_ofNames {names? : Option (List Text)} {registry : Registry}
    (h : ofNames names? = .ok registry) : registry.default? = some .plain := by
  simp only [ofNames, ofDialects, reduceCtorEq, and_false, if_false] at h
  split at h
  · cases h
    rfl
  · cases h

def forPath (registry : Registry) (path : Path) : Except Failure Dialect :=
  registry.forExtension path.suffix

def extensions (registry : Registry) : List Text :=
  Text.sortedSet (registry.entries.map Prod.fst)

def dialects (registry : Registry) : List Dialect :=
  registry.entries.map Prod.snd ++ registry.default?.toList

end Registry
end PodManual
