import PodManual.Proofs.Document.Operation

/-!
# Documents that keep nothing

A reference is a document whose only state is its path and the dialect that was set
for it: it reads its file and resolves its dependencies whenever it is asked.  On
files that stay as they are, a document answers every run of operations as the
reference does.  What the document keeps is always what the reference would derive
again, so a kept result may be given in its place, and a failure, which no
reference remembers, shows in no later answer.
-/

namespace PodManual

/-- A document without anything derived. -/
structure Reference where
  path? : Option Path
  forced? : Option Dialect
  deriving DecidableEq, Repr

namespace Reference

def extension (reference : Reference) : Text :=
  match reference.path? with
  | none => []
  | some path => path.extension

def dialect (registry : Registry) (reference : Reference) : Except Failure Dialect :=
  match reference.forced? with
  | some dialect => .ok dialect
  | none => registry.forExtension reference.extension

def instructions (level : Nat) (tree : FileTree) (registry : Registry) (reference : Reference) :
    Except Failure (List Instruction) :=
  match reference.path? with
  | none => .ok []
  | some path =>
      (reference.dialect registry).bind fun dialect =>
        (tree.extract level path dialect.language).result

def dependenciesFrom (level : Nat) (tree : FileTree) (registry : Registry) (reference : Reference)
    (roots : List Path) (visited : List Text) : Except Failure Dependency.Found :=
  (reference.instructions level tree registry).bind fun instructions =>
    (Dependency.resolve level tree registry roots
      ⟨reference.extension, Dependency.declared instructions, []⟩ visited).result

def className (level : Nat) (tree : FileTree) (registry : Registry) (reference : Reference) :
    Except Failure (Option Text) :=
  (reference.instructions level tree registry).map Instruction.className

def dependencies (level : Nat) (tree : FileTree) (registry : Registry) (reference : Reference)
    (roots : List Path) : Except Failure (List Dependency) :=
  (reference.dependenciesFrom level tree registry roots []).map Prod.fst

def page (level : Nat) (tree : FileTree) (registry : Registry) (reference : Reference)
    (options : PageOptions) : Except Failure Text :=
  (reference.instructions level tree registry).map (Page.render options)

def fileExists (tree : FileTree) (reference : Reference) : Except Failure Bool :=
  match reference.path? with
  | none => .ok false
  | some path => tree.isFile path

def fullPath (directory : Path) (reference : Reference) : Text :=
  match reference.path? with
  | none => []
  | some path => (directory.join path).toText

/-- Put another reference in the place of this one, unless there is none. -/
def replaceBy (reference : Reference) :
    Except Failure Reference -> Reference × Except Failure Answer
  | .ok other => (other, .ok (.placed other.path? other.extension))
  | .error failure => (reference, .error failure)

def perform (level : Nat) (tree : FileTree) (registry : Registry) (reference : Reference) :
    Operation -> Reference × Except Failure Answer
  | .new path? => reference.replaceBy (.ok ⟨path?, none⟩)
  | .forClass root name extension =>
      reference.replaceBy ((registry.forExtension extension).map fun dialect =>
        ⟨some (Dependency.pathOf dialect root name), some dialect⟩)
  | .setPath path => reference.replaceBy (.ok ⟨some path, none⟩)
  | .setDialect extension =>
      reference.replaceBy ((registry.forExtension extension).map fun dialect =>
        ⟨reference.path?, some dialect⟩)
  | .dialect => (reference, (reference.dialect registry).map .dialect)
  | .read => (reference, (reference.instructions level tree registry).map .instructions)
  | .instructions => (reference, (reference.instructions level tree registry).map .instructions)
  | .className => (reference, (reference.className level tree registry).map .className)
  | .dependencies roots =>
      (reference, (reference.dependencies level tree registry roots).map .dependencies)
  | .dependenciesFrom roots visited =>
      (reference, (reference.dependenciesFrom level tree registry roots visited).map .found)
  | .page options => (reference, (reference.page level tree registry options).map .page)
  | .fileExists => (reference, (reference.fileExists tree).map .fileExists)
  | .fullPath directory => (reference, .ok (.fullPath (reference.fullPath directory)))

def after (level : Nat) (tree : FileTree) (registry : Registry) (reference : Reference)
    (operations : List Operation) : Reference :=
  operations.foldl
    (fun reference operation => (reference.perform level tree registry operation).1) reference

def answers (level : Nat) (tree : FileTree) (registry : Registry) (reference : Reference) :
    List Operation -> List (Except Failure Answer)
  | [] => []
  | operation :: operations =>
      (reference.perform level tree registry operation).2 ::
        (reference.perform level tree registry operation).1.answers level tree registry operations

theorem replaceBy_of_error {reference : Reference} {replacing : Except Failure Reference}
    {failure : Failure} (h : (reference.replaceBy replacing).2 = .error failure) :
    (reference.replaceBy replacing).1 = reference := by
  cases replacing with
  | error other => rfl
  | ok other => cases h

theorem perform_of_error {level : Nat} {tree : FileTree} {registry : Registry}
    {reference : Reference} {operation : Operation} {failure : Failure}
    (h : (reference.perform level tree registry operation).2 = .error failure) :
    (reference.perform level tree registry operation).1 = reference := by
  cases operation with
  | new path? => cases h
  | setPath path => cases h
  | forClass root name extension => exact replaceBy_of_error h
  | setDialect extension => exact replaceBy_of_error h
  | dialect | read | instructions | className | dependencies | dependenciesFrom
  | page | fileExists | fullPath => rfl

end Reference

/-!
## What a document keeps
-/

/-- Everything that the document keeps is what the reference derives, and the
dialect that was set is among it. -/
structure Represents (level : Nat) (tree : FileTree) (registry : Registry) (reference : Reference)
    (document : Document) : Prop where
  registry_eq : document.registry = registry
  path_eq : document.path? = reference.path?
  forced : forall dialect, reference.forced? = some dialect ->
    document.dialect? = some dialect
  dialect : forall dialect, document.dialect? = some dialect ->
    reference.dialect registry = .ok dialect
  instructions : forall instructions, document.instructions? = some instructions ->
    reference.instructions level tree registry = .ok instructions
  className : forall name, document.className? = some name ->
    reference.className level tree registry = .ok (some name)
  resolved : forall roots kept, document.resolved.lookup roots = some kept ->
    reference.dependencies level tree registry roots = .ok kept

/-- A reply gives what is expected of the reference, and the document that it
leaves behind still represents the reference. -/
structure Agrees {α : Type} (level : Nat) (tree : FileTree) (registry : Registry)
    (reference : Reference) (reply : Reply α) (expected : Except Failure α) : Prop where
  result_eq : reply.result = expected
  represents : Represents level tree registry reference reply.document

section

variable {α β : Type} {level : Nat} {tree : FileTree} {registry : Registry} {reference : Reference}

namespace Agrees

theorem andThen {first : Reply α} {expected : Except Failure α}
    {second : Document -> α -> Reply β} {target : Except Failure β}
    (hfirst : Agrees level tree registry reference first expected)
    (herror : forall failure, expected = .error failure -> target = .error failure)
    (hok : forall a, expected = .ok a ->
      Agrees level tree registry reference (second first.document a) target) :
    Agrees level tree registry reference (first.andThen second) target := by
  have hresult := hfirst.result_eq
  cases hexpected : expected with
  | error failure =>
      rw [Reply.andThen_of_error (hresult.trans hexpected)]
      exact ⟨(herror failure hexpected).symm, hfirst.represents⟩
  | ok a =>
      have hnext := hok a hexpected
      rw [Reply.andThen_of_ok (hresult.trans hexpected)]
      exact ⟨hnext.result_eq, hnext.represents⟩

theorem ofTraced {document : Document} {traced : Traced α} {update : α -> Document}
    (hfail : Represents level tree registry reference document)
    (hdone : forall a, traced.result = .ok a ->
      Represents level tree registry reference (update a)) :
    Agrees level tree registry reference (Reply.ofTraced document traced update)
      traced.result := by
  constructor
  · exact Reply.ofTraced_result document traced update
  · cases hresult : traced.result with
    | error failure =>
        simp only [Reply.ofTraced, hresult]
        exact hfail
    | ok a =>
        simp only [Reply.ofTraced, hresult]
        exact hdone a hresult

theorem map {reply : Reply α} {expected : Except Failure α}
    (h : Agrees level tree registry reference reply expected) (f : α -> β) :
    Agrees level tree registry reference (reply.map f) (expected.map f) := by
  constructor
  · rw [Reply.map_result, h.result_eq]
  · exact h.represents

end Agrees

namespace Represents

variable {document : Document}

theorem underived (level : Nat) (tree : FileTree) (registry : Registry) (path? : Option Path)
    (forced? : Option Dialect) :
    Represents level tree registry ⟨path?, forced?⟩
      ⟨registry, path?, forced?, none, none, []⟩ where
  registry_eq := rfl
  path_eq := rfl
  forced := by
    intro dialect hforced
    exact hforced
  dialect := by
    intro dialect hforced
    cases hforced
    rfl
  instructions := by
    intro instructions hkept
    cases hkept
  className := by
    intro name hkept
    cases hkept
  resolved := by
    intro roots kept hkept
    cases hkept

theorem extension_eq (h : Represents level tree registry reference document) :
    document.extension = reference.extension := by
  unfold Document.extension Reference.extension
  cases hpath : reference.path? with
  | none => simp only [h.path_eq, hpath]
  | some path => simp only [h.path_eq, hpath]

/-!
## One operation after the other
-/

theorem dialect_agrees (h : Represents level tree registry reference document) :
    Agrees level tree registry reference document.dialect (reference.dialect registry) := by
  unfold Document.dialect
  cases hkept : document.dialect? with
  | some dialect => exact ⟨(h.dialect dialect hkept).symm, h⟩
  | none =>
      -- A dialect that was set would have been kept.
      have hfree : reference.forced? = none := by
        cases hforced : reference.forced? with
        | none => rfl
        | some dialect =>
            have hset := h.forced dialect hforced
            rw [hkept] at hset
            cases hset
      have hchosen : reference.dialect registry =
          document.registry.forExtension document.extension := by
        rw [Reference.dialect, hfree, h.registry_eq, h.extension_eq]
      simp only [Document.chooseDialect]
      cases hfound : document.registry.forExtension document.extension with
      | error failure => exact ⟨(hchosen.trans hfound).symm, h⟩
      | ok dialect =>
          refine ⟨(hchosen.trans hfound).symm, { h with forced := ?_, dialect := ?_ }⟩
          · intro other hforced
            rw [hfree] at hforced
            cases hforced
          · intro other hother
            cases hother
            exact hchosen.trans hfound

theorem read_agrees (h : Represents level tree registry reference document) :
    Agrees level tree registry reference (document.read level tree)
      (reference.instructions level tree registry) := by
  -- The list that a reading keeps is the list that the reference reads.
  have keep : forall {place : Document} {instructions : List Instruction},
      Represents level tree registry reference place ->
      reference.instructions level tree registry = .ok instructions ->
      Represents level tree registry reference
        { place with instructions? := some instructions } := by
    intro place instructions hplace hread
    refine { hplace with instructions := ?_ }
    intro other hother
    cases hother
    exact hread
  cases hpath : document.path? with
  | none =>
      have hread : reference.instructions level tree registry = .ok [] := by
        rw [Reference.instructions, <- h.path_eq, hpath]
      rw [Document.read_of_no_path hpath, hread]
      exact ⟨rfl, keep h hread⟩
  | some path =>
      have hread : reference.instructions level tree registry =
          (reference.dialect registry).bind fun dialect =>
            (tree.extract level path dialect.language).result := by
        rw [Reference.instructions, <- h.path_eq, hpath]
      rw [Document.read_of_path hpath, hread]
      apply h.dialect_agrees.andThen
      · intro failure hdialect
        rw [hdialect]
        rfl
      · intro dialect hdialect
        have hextract : (reference.dialect registry).bind
            (fun dialect => (tree.extract level path dialect.language).result) =
              (tree.extract level path dialect.language).result := by
          rw [hdialect]
          rfl
        rw [hextract]
        apply Agrees.ofTraced h.dialect_agrees.represents
        intro instructions hinstructions
        apply keep h.dialect_agrees.represents
        rw [hread, hextract, hinstructions]

theorem instructions_agrees (h : Represents level tree registry reference document) :
    Agrees level tree registry reference (document.instructions level tree)
      (reference.instructions level tree registry) := by
  unfold Document.instructions
  cases hkept : document.instructions? with
  | some instructions => exact ⟨(h.instructions instructions hkept).symm, h⟩
  | none => exact h.read_agrees

theorem className_agrees (h : Represents level tree registry reference document) :
    Agrees level tree registry reference (document.className level tree)
      (reference.className level tree registry) := by
  unfold Document.className
  cases hkept : document.className? with
  | some name => exact ⟨(h.className name hkept).symm, h⟩
  | none =>
      apply h.instructions_agrees.andThen
      · intro failure hread
        rw [Reference.className, hread]
        rfl
      · intro instructions hread
        have hname : reference.className level tree registry =
            .ok (Instruction.className instructions) := by
          rw [Reference.className, hread]
          rfl
        rw [hname]
        refine ⟨rfl, { h.instructions_agrees.represents with className := ?_ }⟩
        intro name hkeep
        rw [hname]
        exact congrArg Except.ok hkeep

theorem dependenciesFrom_agrees (h : Represents level tree registry reference document)
    (roots : List Path) (visited : List Text) :
    Agrees level tree registry reference (document.dependenciesFrom level tree roots visited)
      (reference.dependenciesFrom level tree registry roots visited) := by
  have hlater := h.instructions_agrees.represents
  apply h.instructions_agrees.andThen
  · intro failure hread
    rw [Reference.dependenciesFrom, hread]
    rfl
  · intro instructions hread
    have hresolve : reference.dependenciesFrom level tree registry roots visited =
        (Dependency.resolve level tree registry roots
          ⟨reference.extension, Dependency.declared instructions, []⟩ visited).result := by
      rw [Reference.dependenciesFrom, hread]
      rfl
    rw [hresolve, hlater.registry_eq, hlater.extension_eq]
    apply Agrees.ofTraced hlater
    intro found hfound
    exact hlater

theorem dependencies_agrees (h : Represents level tree registry reference document)
    (roots : List Path) :
    Agrees level tree registry reference (document.dependencies level tree roots)
      (reference.dependencies level tree registry roots) := by
  cases hkept : document.resolved.lookup roots with
  | some kept =>
      rw [Document.dependencies_of_kept hkept]
      exact ⟨(h.resolved roots kept hkept).symm, h⟩
  | none =>
      simp only [Document.dependencies, hkept]
      have hlater := (h.dependenciesFrom_agrees roots []).represents
      apply (h.dependenciesFrom_agrees roots []).andThen
      · intro failure hfailure
        rw [Reference.dependencies, hfailure]
        rfl
      · intro found hfound
        have hfirst : reference.dependencies level tree registry roots = .ok found.1 := by
          rw [Reference.dependencies, hfound]
          rfl
        rw [hfirst]
        refine ⟨rfl, { hlater with resolved := ?_ }⟩
        intro others kept hlookup
        rw [List.lookup_cons] at hlookup
        split at hlookup
        · rename_i hsame
          cases hlookup
          rw [eq_of_beq hsame]
          exact hfirst
        · exact hlater.resolved others kept hlookup

theorem page_agrees (h : Represents level tree registry reference document)
    (options : PageOptions) :
    Agrees level tree registry reference (document.page level tree options)
      (reference.page level tree registry options) := by
  apply h.instructions_agrees.andThen
  · intro failure hread
    rw [Reference.page, hread]
    rfl
  · intro instructions hread
    rw [Reference.page, hread]
    exact ⟨rfl, h.instructions_agrees.represents⟩

theorem fileExists_eq (h : Represents level tree registry reference document) :
    document.fileExists tree = reference.fileExists tree := by
  unfold Document.fileExists Reference.fileExists
  cases hpath : reference.path? with
  | none => simp only [h.path_eq, hpath]
  | some path => simp only [h.path_eq, hpath]

theorem fullPath_eq (h : Represents level tree registry reference document)
    (directory : Path) : document.fullPath directory = reference.fullPath directory := by
  unfold Document.fullPath Reference.fullPath
  cases hpath : reference.path? with
  | none => simp only [h.path_eq, hpath]
  | some path => simp only [h.path_eq, hpath]

/-- Another document in the place of this one is seen by its path and extension. -/
theorem replaceBy_agrees {other : Reference} {place : Document}
    (hplace : Represents level tree registry other place) (document : Document) :
    Agrees level tree registry other (document.replaceBy (.ok place))
      (.ok (.placed other.path? other.extension)) := by
  refine ⟨?_, hplace⟩
  rw [Document.replaceBy, hplace.path_eq, hplace.extension_eq]

/-- Every operation answers as the reference does and leaves what it keeps in
order. -/
theorem perform_agrees (h : Represents level tree registry reference document)
    (operation : Operation) :
    Agrees level tree registry (reference.perform level tree registry operation).1
      (document.perform level tree operation)
      (reference.perform level tree registry operation).2 := by
  have hregistry := h.registry_eq
  have hpath := h.path_eq
  cases operation with
  | new path? =>
      simp only [Document.perform, Reference.perform, Document.new, hregistry]
      exact replaceBy_agrees (underived level tree registry path? none) document
  | forClass root name extension =>
      simp only [Document.perform, Reference.perform, Document.forClass, hregistry]
      cases registry.forExtension extension with
      | error failure => exact ⟨rfl, h⟩
      | ok dialect =>
          exact replaceBy_agrees (underived level tree registry _ (some dialect)) document
  | setPath path =>
      simp only [Document.perform, Reference.perform, Document.setPath, Document.new,
        hregistry]
      exact replaceBy_agrees (underived level tree registry (some path) none) document
  | setDialect extension =>
      simp only [Document.perform, Reference.perform, Document.setDialect, hregistry,
        hpath]
      cases registry.forExtension extension with
      | error failure => exact ⟨rfl, h⟩
      | ok dialect =>
          exact replaceBy_agrees
            (underived level tree registry reference.path? (some dialect)) document
  | dialect => exact h.dialect_agrees.map Answer.dialect
  | read => exact h.read_agrees.map Answer.instructions
  | instructions => exact h.instructions_agrees.map Answer.instructions
  | className => exact h.className_agrees.map Answer.className
  | dependencies roots => exact (h.dependencies_agrees roots).map Answer.dependencies
  | dependenciesFrom roots visited =>
      exact (h.dependenciesFrom_agrees roots visited).map Answer.found
  | page options => exact (h.page_agrees options).map Answer.page
  | fileExists => exact ⟨congrArg (Except.map Answer.fileExists) h.fileExists_eq, h⟩
  | fullPath directory =>
      exact ⟨congrArg (fun path => Except.ok (Answer.fullPath path)) (h.fullPath_eq directory), h⟩

/-!
## Runs
-/

theorem answers_eq (h : Represents level tree registry reference document)
    (operations : List Operation) :
    document.answers level tree operations = reference.answers level tree registry operations := by
  induction operations generalizing document reference with
  | nil => rfl
  | cons operation operations ih =>
      have hstep := h.perform_agrees operation
      rw [Document.answers, Reference.answers, hstep.result_eq, ih hstep.represents]

theorem after (h : Represents level tree registry reference document)
    (operations : List Operation) :
    Represents level tree registry (reference.after level tree registry operations)
      (document.after level tree operations) := by
  induction operations generalizing document reference with
  | nil => exact h
  | cons operation operations ih => exact ih (h.perform_agrees operation).represents

end Represents
end

namespace Document

/-- Every run of operations is answered as by the reference.  An operation that
fails leaves the reference as it was and changes no later answer of the document. -/
theorem answers_eq_reference (level : Nat) (tree : FileTree) (registry : Registry)
    (path? : Option Path) (operations : List Operation) :
    (new registry path?).answers level tree operations =
      (Reference.mk path? none).answers level tree registry operations ∧
    (forall operation failure,
      (((new registry path?).after level tree operations).perform level tree
        operation).result = .error failure ->
      (Reference.mk path? none).after level tree registry (operations ++ [operation]) =
        (Reference.mk path? none).after level tree registry operations ∧
      forall later,
        ((new registry path?).after level tree (operations ++ [operation])).answers level tree
            later =
          ((new registry path?).after level tree operations).answers level tree later) ∧
    forall roots,
      (((new registry path?).after level tree operations).dependencies level tree
          roots).result =
        (((new registry path?).after level tree operations).dependenciesFrom level tree roots
          []).result.map Prod.fst := by
  have hstart : Represents level tree registry ⟨path?, none⟩ (new registry path?) :=
    Represents.underived level tree registry path? none
  have hreached := hstart.after operations
  refine ⟨hstart.answers_eq operations, ?_, ?_⟩
  · intro operation failure hfailure
    rw [(hreached.perform_agrees operation).result_eq] at hfailure
    have hsame : (Reference.mk path? none).after level tree registry (operations ++ [operation]) =
        (Reference.mk path? none).after level tree registry operations := by
      rw [Reference.after, List.foldl_append]
      exact Reference.perform_of_error hfailure
    refine ⟨hsame, ?_⟩
    intro later
    rw [(hstart.after (operations ++ [operation])).answers_eq later, hsame,
      hreached.answers_eq later]
  · intro roots
    rw [(hreached.dependencies_agrees roots).result_eq,
      (hreached.dependenciesFrom_agrees roots []).result_eq]
    rfl

def overlongTree : FileTree :=
  .ofListing (.entry "A.pm".toList
    (.file (.ofText ("=head1 NAME\nA\n=head1 DEPENDENCIES\n=item ".toList ++
      List.replicate 256 'x' ++ "\n".toList))) .empty)

def overlongDocument : Document :=
  new ⟨[], some .perl⟩ (some (Path.ofText "A.pm".toList))

def overlongSearch : Operation :=
  .dependencies [Path.ofText ".".toList]

-- The search fails after the instructions were read and kept.
theorem overlong_leaves_no_trace :
    exists failure,
      ((overlongDocument.after 0 overlongTree [.className]).perform 0 overlongTree
        overlongSearch).result = .error failure ∧
      forall later,
        (overlongDocument.after 0 overlongTree [.className, overlongSearch]).answers
            0 overlongTree later =
          (overlongDocument.after 0 overlongTree [.className]).answers 0 overlongTree
            later := by
  have hfails : ((overlongDocument.after 0 overlongTree [.className]).perform 0 overlongTree
      overlongSearch).result.toOption = none := by
    decide +kernel
  cases hresult : ((overlongDocument.after 0 overlongTree [.className]).perform
      0 overlongTree overlongSearch).result with
  | ok answer =>
      rw [hresult] at hfails
      cases hfails
  | error failure =>
      refine ⟨failure, rfl, ?_⟩
      exact ((answers_eq_reference 0 overlongTree ⟨[], some .perl⟩
        (some (Path.ofText "A.pm".toList)) [.className]).2.1 _ failure hresult).2

example :
    (overlongDocument.answers 0 overlongTree
      [.className, overlongSearch, .className, overlongSearch]).map Except.toOption =
      [some (.className (some "A".toList)), none, some (.className (some "A".toList)),
        none] := by
  decide +kernel

end Document
end PodManual
