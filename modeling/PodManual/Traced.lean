import PodManual.Failure

/-!
# Traced results

A computation that takes notes on its way and may fail.  The notes that were
taken before a failure are kept.
-/

namespace PodManual

inductive Note where
  /-- A path was to be read that is no regular file. -/
  | notRegularFile (path : Path)
  /-- A regular file could not be read. -/
  | unreadableFile (path : Path) (fault : FileFault)
  /-- A directory could not be listed. -/
  | unreadableDirectory (path : Path) (fault : FileFault)
  /-- A dependency was met again. -/
  | alreadyVisited (name : Text)
  /-- No search root has a file for a dependency. -/
  | dependencyNotFound (name : Text)
  deriving DecidableEq, Repr

namespace Note

/-- The level of notes; they are shown where this level or a lower one is asked for. -/
def level : Nat := 10

def logger : Note -> Text
  | .notRegularFile _ => "pod.parser".toList
  | .unreadableFile _ _ => "pod.parser".toList
  | .unreadableDirectory _ _ => "pod.locator".toList
  | .alreadyVisited _ => "pod.resolver".toList
  | .dependencyNotFound _ => "pod.resolver".toList

def message : Note -> Text
  | .notRegularFile path =>
      "Pomijam ".toList ++ path.toText ++ ": to nie jest zwykły plik".toList
  | .unreadableFile path fault =>
      "Nie można odczytać ".toList ++ path.toText ++ ": ".toList ++
        fault.message path.toText
  | .unreadableDirectory path fault =>
      "Nie można odczytać katalogu ".toList ++ path.toText ++ ": ".toList ++
        fault.message path.toText
  | .alreadyVisited name =>
      "Zależność ".toList ++ name ++ " już odwiedzona, pomijam".toList
  | .dependencyNotFound name =>
      "Nie znaleziono pliku dla zależności ".toList ++ name

end Note

structure Traced (α : Type) where
  notes : List Note
  result : Except Failure α

namespace Traced

variable {α β : Type}

def done (a : α) : Traced α :=
  ⟨[], .ok a⟩

def fail (failure : Failure) : Traced α :=
  ⟨[], .error failure⟩

def note (level : Nat) (notes : List Note) : Traced Unit :=
  ⟨if level ≤ Note.level then notes else [], .ok ()⟩

def ofExcept (result : Except Failure α) : Traced α :=
  ⟨[], result⟩

/-- Go on with a result; a failure ends the computation. -/
def andThen (first : Traced α) (second : α -> Traced β) : Traced β :=
  match first.result with
  | .ok a => ⟨first.notes ++ (second a).notes, (second a).result⟩
  | .error failure => ⟨first.notes, .error failure⟩

@[simp] theorem andThen_done (a : α) (second : α -> Traced β) :
    (done a).andThen second = second a := by
  simp [andThen, done]

@[simp] theorem result_done (a : α) : (done a).result = .ok a := rfl

@[simp] theorem result_note_andThen (level : Nat) (notes : List Note)
    (second : Unit -> Traced β) :
    ((note level notes).andThen second).result = (second ()).result := rfl

@[simp] theorem notes_done (a : α) : (done a).notes = [] := rfl

@[simp] theorem notes_note_andThen (level : Nat) (notes : List Note)
    (second : Unit -> Traced β) :
    ((note level notes).andThen second).notes =
      (note level notes).notes ++ (second ()).notes := rfl

@[simp] theorem result_ofExcept (result : Except Failure α) :
    (ofExcept result).result = result := rfl

end Traced
end PodManual
