import PodManual.Document

/-!
# Reading a document

What an operation that needs the instructions of a document does to the document:
it may choose a dialect and keep the instructions, and nothing else changes.  The
dependencies of a document are those that a search finds for its instructions.
-/

namespace PodManual

variable {level : Nat}

namespace Reply

variable {α β : Type}

theorem andThen_of_ok {first : Reply α} {a : α} (h : first.result = .ok a)
    (second : Document -> α -> Reply β) :
    first.andThen second =
      ⟨(second first.document a).document,
        first.notes ++ (second first.document a).notes,
        (second first.document a).result⟩ := by
  simp only [andThen, h]

theorem andThen_of_error {first : Reply α} {failure : Failure}
    (h : first.result = .error failure) (second : Document -> α -> Reply β) :
    first.andThen second = ⟨first.document, first.notes, .error failure⟩ := by
  simp only [andThen, h]

@[simp] theorem ofTraced_result (document : Document) (traced : Traced α)
    (update : α -> Document) :
    (ofTraced document traced update).result = traced.result := by
  cases h : traced.result with
  | error failure => simp [ofTraced, h]
  | ok a => simp [ofTraced, h]

@[simp] theorem ofTraced_notes (document : Document) (traced : Traced α)
    (update : α -> Document) :
    (ofTraced document traced update).notes = traced.notes := by
  cases h : traced.result with
  | error failure => simp [ofTraced, h]
  | ok a => simp [ofTraced, h]

end Reply

theorem FileTree.extract_eq_error {tree : FileTree} {path : Path}
    {language : Language} {failure : Failure}
    (h : (tree.extract level path language).result = .error failure) :
    tree.fileAt? path = .error failure := by
  unfold extract at h
  split at h
  · rename_i other hfile
    cases h
    exact hfile
  · cases h
  · cases h

namespace Document

def SamePlace (first second : Document) : Prop :=
  second.path? = first.path? ∧ second.registry = first.registry

theorem SamePlace.extension_eq {first second : Document} (h : SamePlace first second) :
    second.extension = first.extension := by
  unfold extension
  rw [h.left]

theorem dialect_samePlace (document : Document) :
    SamePlace document document.dialect.document := by
  unfold dialect
  cases document.dialect? with
  | some dialect => exact ⟨rfl, rfl⟩
  | none =>
      unfold chooseDialect
      cases document.registry.forExtension document.extension with
      | error failure => exact ⟨rfl, rfl⟩
      | ok dialect => exact ⟨rfl, rfl⟩

theorem dialect_eq_error {document : Document} {failure : Failure}
    (h : document.dialect.result = .error failure) :
    document.registry.forExtension document.extension = .error failure := by
  unfold dialect at h
  cases hchosen : document.dialect? with
  | some dialect => simp [hchosen] at h
  | none =>
      simp only [hchosen, chooseDialect] at h
      cases hfound : document.registry.forExtension document.extension with
      | error other =>
          simp only [hfound] at h
          exact h
      | ok dialect => simp [hfound] at h

theorem read_of_no_path {document : Document} (h : document.path? = none)
    (tree : FileTree) :
    document.read level tree =
      ⟨{ document with instructions? := some [] }, [], .ok []⟩ := by
  simp only [read, h]

theorem read_of_path {document : Document} {path : Path}
    (h : document.path? = some path) (tree : FileTree) :
    document.read level tree =
      document.dialect.andThen fun document dialect =>
        Reply.ofTraced document (tree.extract level path dialect.language)
          fun instructions => { document with instructions? := some instructions } := by
  simp only [read, h]

theorem read_samePlace (level : Nat) (tree : FileTree) (document : Document) :
    SamePlace document (document.read level tree).document := by
  cases hpath : document.path? with
  | none =>
      rw [read_of_no_path hpath]
      exact ⟨rfl, rfl⟩
  | some path =>
      rw [read_of_path hpath]
      cases hdialect : document.dialect.result with
      | error failure =>
          rw [Reply.andThen_of_error hdialect]
          exact document.dialect_samePlace
      | ok dialect =>
          rw [Reply.andThen_of_ok hdialect]
          unfold Reply.ofTraced
          cases (tree.extract level path dialect.language).result with
          | error failure => exact document.dialect_samePlace
          | ok instructions => exact document.dialect_samePlace

theorem instructions_samePlace (level : Nat) (tree : FileTree) (document : Document) :
    SamePlace document (document.instructions level tree).document := by
  unfold instructions
  cases document.instructions? with
  | some instructions => exact ⟨rfl, rfl⟩
  | none => exact document.read_samePlace level tree

theorem read_keeps {tree : FileTree} {document : Document}
    {instructions : List Instruction}
    (h : (document.read level tree).result = .ok instructions) :
    (document.read level tree).document.instructions? = some instructions := by
  cases hpath : document.path? with
  | none =>
      rw [read_of_no_path hpath] at h ⊢
      cases h
      rfl
  | some path =>
      rw [read_of_path hpath] at h ⊢
      cases hdialect : document.dialect.result with
      | error failure =>
          rw [Reply.andThen_of_error hdialect] at h
          cases h
      | ok dialect =>
          rw [Reply.andThen_of_ok hdialect] at h ⊢
          simp only [Reply.ofTraced_result] at h
          simp only [Reply.ofTraced, h]

theorem instructions_keeps {tree : FileTree} {document : Document}
    {instructions : List Instruction}
    (h : (document.instructions level tree).result = .ok instructions) :
    (document.instructions level tree).document.instructions? = some instructions := by
  unfold Document.instructions at h ⊢
  cases hkept : document.instructions? with
  | some kept =>
      rw [hkept] at h
      cases h
      exact hkept
  | none =>
      rw [hkept] at h
      exact read_keeps h

theorem instructions_again {tree : FileTree} {document : Document}
    {instructions : List Instruction}
    (h : (document.instructions level tree).result = .ok instructions)
    (other : Nat) (later : FileTree) :
    (((document.instructions level tree).document).instructions other later).result =
      .ok instructions := by
  have hkept := instructions_keeps h
  rw [Document.instructions, hkept]

/-- Reading fails only if no dialect serves the extension or the path cannot be
looked up. -/
theorem instructions_eq_error {tree : FileTree} {document : Document}
    {failure : Failure} (h : (document.instructions level tree).result = .error failure) :
    document.registry.forExtension document.extension = .error failure ∨
      exists path, tree.fileAt? path = .error failure := by
  unfold Document.instructions at h
  cases hkept : document.instructions? with
  | some kept => simp [hkept] at h
  | none =>
      simp only [hkept] at h
      cases hpath : document.path? with
      | none => simp [read_of_no_path hpath] at h
      | some path =>
          rw [read_of_path hpath] at h
          cases hdialect : document.dialect.result with
          | error other =>
              rw [Reply.andThen_of_error hdialect] at h
              cases h
              exact Or.inl (dialect_eq_error hdialect)
          | ok dialect =>
              rw [Reply.andThen_of_ok hdialect] at h
              simp only [Reply.ofTraced_result] at h
              exact Or.inr ⟨path, FileTree.extract_eq_error h⟩

/-!
## Dependencies
-/

theorem dependenciesFrom_of_ok {tree : FileTree} {document : Document}
    {instructions : List Instruction}
    (h : (document.instructions level tree).result = .ok instructions)
    (roots : List Path) (visited : List Text) :
    (document.dependenciesFrom level tree roots visited).result =
      (Dependency.resolve level tree document.registry roots
        ⟨document.extension, Dependency.declared instructions, []⟩ visited).result := by
  have hplace := document.instructions_samePlace level tree
  rw [dependenciesFrom, Reply.andThen_of_ok h]
  simp only [Reply.ofTraced_result]
  rw [hplace.extension_eq, hplace.right]

theorem notes_dependenciesFrom_of_ok {tree : FileTree} {document : Document}
    {instructions : List Instruction}
    (h : (document.instructions level tree).result = .ok instructions)
    (roots : List Path) (visited : List Text) :
    (document.dependenciesFrom level tree roots visited).notes =
      (document.instructions level tree).notes ++
        (Dependency.resolve level tree document.registry roots
          ⟨document.extension, Dependency.declared instructions, []⟩ visited).notes := by
  have hplace := document.instructions_samePlace level tree
  rw [dependenciesFrom, Reply.andThen_of_ok h]
  simp only [Reply.ofTraced_notes]
  rw [hplace.extension_eq, hplace.right]

theorem dependenciesFrom_of_error {tree : FileTree} {document : Document}
    {failure : Failure} (h : (document.instructions level tree).result = .error failure)
    (roots : List Path) (visited : List Text) :
    (document.dependenciesFrom level tree roots visited).result = .error failure := by
  rw [dependenciesFrom, Reply.andThen_of_error h]

theorem dependenciesFrom_document (tree : FileTree) (document : Document)
    (roots : List Path) (visited : List Text) :
    (document.dependenciesFrom level tree roots visited).document =
      (document.instructions level tree).document := by
  unfold dependenciesFrom
  cases h : (document.instructions level tree).result with
  | error failure => rw [Reply.andThen_of_error h]
  | ok instructions =>
      rw [Reply.andThen_of_ok h]
      unfold Reply.ofTraced
      cases (Dependency.resolve level tree
        (document.instructions level tree).document.registry roots
        ⟨(document.instructions level tree).document.extension,
          Dependency.declared instructions, []⟩ visited).result with
      | error failure => rfl
      | ok found => rfl

theorem dependencies_of_kept {document : Document} {roots : List Path}
    {kept : List Dependency} (h : document.resolved.lookup roots = some kept)
    (tree : FileTree) : document.dependencies level tree roots = ⟨document, [], .ok kept⟩ := by
  simp only [dependencies, h]

theorem dependencies_result_of_not_kept {document : Document} {roots : List Path}
    (h : document.resolved.lookup roots = none) (tree : FileTree) :
    (document.dependencies level tree roots).result =
      (document.dependenciesFrom level tree roots []).result.map Prod.fst := by
  simp only [dependencies, h]
  cases hfound : (document.dependenciesFrom level tree roots []).result with
  | error failure => rw [Reply.andThen_of_error hfound, Except.map]
  | ok found => rw [Reply.andThen_of_ok hfound, Except.map]

end Document
end PodManual
