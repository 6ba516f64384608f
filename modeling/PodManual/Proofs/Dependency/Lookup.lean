import PodManual.Proofs.Document.Reading

/-!
# Looking up the document of a name

A search looks a name up below a root by the path of the name.  What it finds is
what the document of the name shows: whether its file exists, its extension and
the names that it declares.  All of these names lie in one finite list, since each
is declared by some file of the tree in some dialect of the registry.
-/

namespace PodManual

/-!
## Files of a tree
-/

theorem Listing.files_of_get? {name : Text} {node : Entry} :
    (listing : Listing) -> listing.get? name = some node ->
      forall file, file ∈ node.files -> file ∈ listing.files
  | .empty, h => by
      simp [get?] at h
  | .entry other first rest, h => by
      intro file hfile
      rw [files, List.mem_append]
      by_cases hother : other = name
      · rw [get?, if_pos hother] at h
        cases h
        exact Or.inl hfile
      · rw [get?, if_neg hother] at h
        exact Or.inr (files_of_get? rest h file hfile)

theorem Entry.files_of_descend {names : List Text} {top node : Entry}
    (h : top.descend names = some node) :
    forall file, file ∈ node.files -> file ∈ top.files := by
  induction names generalizing top with
  | nil =>
      rw [descend] at h
      cases h
      intro file hfile
      exact hfile
  | cons name names ih =>
      cases top with
      | file content => simp [descend] at h
      | directory access listing =>
          rw [descend] at h
          cases hnext : listing.get? name with
          | none =>
              rw [hnext] at h
              cases h
          | some next =>
              rw [hnext] at h
              intro file hfile
              rw [files]
              exact Listing.files_of_get? listing hnext file (ih h file hfile)

namespace FileTree

theorem mem_files_of_entryAt? {tree : FileTree} {place : Place} {file : File}
    (h : tree.entryAt? place = some (.file file)) : file ∈ tree.files := by
  have hfile := Entry.files_of_descend h file (by simp [Entry.files])
  simpa [Entry.files, files] using hfile

theorem mem_files_of_fileAt? {tree : FileTree} {path : Path} {file : File}
    (h : tree.fileAt? path = .ok (some file)) : file ∈ tree.files := by
  unfold fileAt? at h
  split at h
  · cases h
  · cases h
  · split at h
    · rename_i place _ content hentry
      cases h
      exact mem_files_of_entryAt? hentry
    · cases h

theorem placeOf?_eq_error {tree : FileTree} {path : Path} {failure : Failure}
    (h : tree.placeOf? path = .error failure) :
    exists fault, failure = .file fault path.toText := by
  unfold placeOf? at h
  split at h
  · cases h
  · split at h <;> cases h
    · exact ⟨_, rfl⟩
    · exact ⟨_, rfl⟩

theorem fileAt?_eq_error {tree : FileTree} {path : Path} {failure : Failure}
    (h : tree.fileAt? path = .error failure) :
    exists fault, failure = .file fault path.toText := by
  unfold fileAt? at h
  split at h
  · rename_i hplace
    cases h
    exact placeOf?_eq_error hplace
  · cases h
  · split at h <;> cases h

end FileTree

/-!
## Dialects of a registry
-/

namespace Registry

theorem mem_dialects_of_forExtension {registry : Registry} {extension : Text}
    {dialect : Dialect} (h : registry.forExtension extension = .ok dialect) :
    dialect ∈ registry.dialects := by
  unfold forExtension at h
  unfold dialects
  cases hregistered : registry.registered? (normalForm extension) with
  | some registered =>
      rw [hregistered] at h
      cases h
      unfold registered? at hregistered
      rcases Option.map_eq_some_iff.mp hregistered with ⟨entry, hentry, rfl⟩
      exact List.mem_append_left _
        (List.mem_map_of_mem (List.mem_of_find?_eq_some hentry))
  | none =>
      rw [hregistered] at h
      cases hdefault : registry.default? with
      | none =>
          rw [hdefault] at h
          cases h
      | some fallback =>
          rw [hdefault] at h
          cases h
          exact List.mem_append_right _ (by simp)

theorem forExtension_eq_error {registry : Registry} {extension : Text}
    {failure : Failure} (h : registry.forExtension extension = .error failure) :
    failure = .noDialectFor extension := by
  unfold forExtension at h
  split at h
  · cases h
  · split at h <;> cases h
    rfl

end Registry

namespace Dependency

/-!
## Documents below a root
-/

theorem openBelow_eq_some {tree : FileTree} {registry : Registry}
    {extension name : Text} {root : Path} {document : Declaring} :
    openBelow tree registry extension root name = .ok (some document) <->
      exists dialect file,
        registry.forExtension extension = .ok dialect ∧
        tree.fileAt? (pathOf dialect root name) = .ok (some file) ∧
        document = ⟨(pathOf dialect root name).extension,
          declared (dialect.language.extractFile file),
          file.remarks (pathOf dialect root name)⟩ := by
  unfold openBelow
  cases hdialect : registry.forExtension extension with
  | error failure => simp
  | ok dialect =>
      cases hfile : tree.fileAt? (pathOf dialect root name) with
      | error failure => simp [hfile]
      | ok file? =>
          cases file? with
          | none => simp [hfile]
          | some file => simp [hfile, eq_comm]

theorem openBelow_eq_error {tree : FileTree} {registry : Registry}
    {extension name : Text} {root : Path} {failure : Failure} :
    openBelow tree registry extension root name = .error failure <->
      registry.forExtension extension = .error failure ∨
      exists dialect, registry.forExtension extension = .ok dialect ∧
        tree.fileAt? (pathOf dialect root name) = .error failure := by
  unfold openBelow
  cases hdialect : registry.forExtension extension with
  | error other => simp
  | ok dialect =>
      cases hfile : tree.fileAt? (pathOf dialect root name) with
      | error other => simp [hfile]
      | ok file? => cases file? <;> simp [hfile]

theorem openBelow_ne_tooDeep (tree : FileTree) (registry : Registry)
    (extension : Text) (root : Path) (name : Text) :
    openBelow tree registry extension root name ≠ .error .tooDeep := by
  intro h
  rcases openBelow_eq_error.mp h with hdialect | ⟨dialect, _, hfile⟩
  · cases Registry.forExtension_eq_error hdialect
  · rcases FileTree.fileAt?_eq_error hfile with ⟨fault, hfault⟩
    cases hfault

theorem names_subset_declarable {tree : FileTree} {registry : Registry}
    {extension name : Text} {root : Path} {document : Declaring}
    (h : openBelow tree registry extension root name = .ok (some document)) :
    document.names ⊆ declarable tree registry := by
  rcases openBelow_eq_some.mp h with ⟨dialect, file, hdialect, hfile, rfl⟩
  intro declaredName hname
  unfold declarable
  apply List.mem_flatMap.mpr
  refine ⟨file, FileTree.mem_files_of_fileAt? hfile, ?_⟩
  apply List.mem_flatMap.mpr
  exact ⟨dialect, Registry.mem_dialects_of_forExtension hdialect, hname⟩

end Dependency

/-!
## The document of a name
-/

namespace Document

open Dependency

/-- The document of a name below a root, if there is a regular file for it. -/
def below? (tree : FileTree) (registry : Registry) (extension : Text) (root : Path)
    (name : Text) : Except Failure (Option Document) :=
  match forClass registry root name extension with
  | .error failure => .error failure
  | .ok document =>
      match document.fileExists tree with
      | .error failure => .error failure
      | .ok present => .ok (if present then some document else none)

variable {tree : FileTree} {registry : Registry} {extension name : Text} {root : Path}

theorem below?_of_dialect {dialect : Dialect}
    (h : registry.forExtension extension = .ok dialect) :
    below? tree registry extension root name =
      match tree.fileAt? (pathOf dialect root name) with
      | .error failure => .error failure
      | .ok none => .ok none
      | .ok (some _) =>
          .ok (some { new registry (some (pathOf dialect root name)) with
            dialect? := some dialect }) := by
  simp only [below?, forClass, h, fileExists, new, FileTree.isFile]
  cases tree.fileAt? (pathOf dialect root name) with
  | error failure => rfl
  | ok file? => cases file? <;> rfl

theorem below?_eq_error {failure : Failure} :
    below? tree registry extension root name = .error failure <->
      openBelow tree registry extension root name = .error failure := by
  cases hdialect : registry.forExtension extension with
  | error other => simp [below?, forClass, openBelow, hdialect]
  | ok dialect =>
      rw [below?_of_dialect hdialect]
      simp only [openBelow, hdialect]
      cases tree.fileAt? (pathOf dialect root name) with
      | error other => simp
      | ok file? => cases file? <;> simp

theorem below?_eq_none :
    below? tree registry extension root name = .ok none <->
      openBelow tree registry extension root name = .ok none := by
  cases hdialect : registry.forExtension extension with
  | error other => simp [below?, forClass, openBelow, hdialect]
  | ok dialect =>
      rw [below?_of_dialect hdialect]
      simp only [openBelow, hdialect]
      cases tree.fileAt? (pathOf dialect root name) with
      | error other => simp
      | ok file? => cases file? <;> simp

/-- A document found below a root gives its instructions, and these and its
extension are what a search sees of it. -/
theorem instructions_of_below? (level : Nat) {document : Document}
    (h : below? tree registry extension root name = .ok (some document)) :
    document.registry = registry ∧
      exists instructions remarks,
        (document.instructions level tree).result = .ok instructions ∧
        (document.instructions level tree).notes = (Traced.note level remarks).notes ∧
        openBelow tree registry extension root name =
          .ok (some ⟨document.extension, declared instructions, remarks⟩) := by
  cases hdialect : registry.forExtension extension with
  | error other => simp [below?, forClass, hdialect] at h
  | ok dialect =>
      rw [below?_of_dialect hdialect] at h
      cases hfile : tree.fileAt? (pathOf dialect root name) with
      | error other => simp [hfile] at h
      | ok file? =>
          cases file? with
          | none => simp [hfile] at h
          | some file =>
              simp only [hfile, Except.ok.injEq, Option.some.injEq] at h
              subst h
              refine ⟨rfl, dialect.language.extractFile file,
                file.remarks (pathOf dialect root name), ?_, ?_, ?_⟩
              · simp [Document.instructions, new, read, Document.dialect,
                  Reply.andThen, FileTree.extract, hfile]
              · simp [Document.instructions, new, read, Document.dialect,
                  Reply.andThen, FileTree.extract, hfile]
              · exact openBelow_eq_some.mpr ⟨dialect, file, hdialect, hfile, rfl⟩

theorem below?_of_openBelow (level : Nat) {declaring : Declaring}
    (h : openBelow tree registry extension root name = .ok (some declaring)) :
    exists document instructions,
      below? tree registry extension root name = .ok (some document) ∧
      document.registry = registry ∧
      (document.instructions level tree).result = .ok instructions ∧
      (document.instructions level tree).notes =
        (Traced.note level declaring.remarks).notes ∧
      declaring.extension = document.extension ∧
      declaring.names = declared instructions := by
  rcases openBelow_eq_some.mp h with ⟨dialect, file, hdialect, hfile, _⟩
  have hbelow : below? tree registry extension root name = _ :=
    below?_of_dialect hdialect
  rw [hfile] at hbelow
  rcases instructions_of_below? level hbelow with
    ⟨hregistry, instructions, _, hread, hnotes, hopen⟩
  rw [h] at hopen
  cases hopen
  exact ⟨_, instructions, hbelow, hregistry, hread, hnotes, rfl, rfl⟩

end Document
end PodManual
