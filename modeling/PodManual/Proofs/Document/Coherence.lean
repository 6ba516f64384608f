import PodManual.Proofs.Dependency.Termination
import PodManual.Proofs.Document.Operation

/-!
# Coherence of what a document keeps

The name of a document, its page and its dependencies without search roots all come
from its instructions.  While files change and operations are performed in any
order, they fit the instructions that the document gives, with one exception.  A
fresh reading renews the instructions and leaves the kept name and the kept
dependencies as they are, so both may belong to an older list; the name and the
dependencies of a document are coherent up to the first reading that outdates them.
-/

namespace PodManual

namespace Dependency

/-- What instructions declare when there is nowhere to search: each name once, in
the order of first occurrence, except those that stand for none. -/
def unrooted (instructions : List Instruction) : List Dependency :=
  ((declared instructions).filter fun name => !isNone name).eraseDups.map
    fun name => ⟨name, none⟩

def unsettled (visited names : List Text) : List Text :=
  (names.filter fun name => !decide (Settled visited name)).eraseDups

theorem unsettled_cons_of_settled {visited : List Text} {name : Text}
    (h : Settled visited name) (names : List Text) :
    unsettled visited (name :: names) = unsettled visited names := by
  have hdecide : decide (Settled visited name) = true := decide_eq_true h
  rw [unsettled, List.filter_cons_of_neg (by rw [hdecide]; decide), unsettled]

theorem unsettled_cons {visited : List Text} {name : Text}
    (h : ¬ Settled visited name) (names : List Text) :
    unsettled visited (name :: names) = name :: unsettled (name :: visited) names := by
  have hdecide : decide (Settled visited name) = false := decide_eq_false h
  rw [unsettled, List.filter_cons_of_pos (by rw [hdecide]; decide), List.eraseDups_cons,
    List.filter_filter, unsettled]
  -- A name that comes again is settled by its first occurrence.
  congr 2
  apply List.filter_congr
  intro other _
  by_cases hsame : other = name
  · simp [hsame]
  · simp [hsame]

theorem searchNames_no_roots (level : Nat)
    (openAt : Path -> Text -> Except Failure (Option Declaring))
    (descend : Declaring -> List Text -> Traced Found) (names visited : List Text) :
    exists seen, (searchNames level openAt descend [] names visited).result =
      .ok ((unsettled visited names).map fun name => ⟨name, none⟩, seen) := by
  induction names generalizing visited with
  | nil => exact ⟨visited, searchNames_nil_eq_ok.mpr rfl⟩
  | cons name names ih =>
      by_cases hsettled : Settled visited name
      · rw [searchNames_cons_of_settled names hsettled,
          unsettled_cons_of_settled hsettled]
        exact ih visited
      · rcases ih (name :: visited) with ⟨seen, hseen⟩
        refine ⟨seen, ?_⟩
        rw [searchNames_cons_eq_ok hsettled, unsettled_cons hsettled]
        exact ⟨(none, [], name :: visited), _, searchRoots_nil_eq_ok.mpr rfl, hseen, rfl⟩

theorem resolve_no_roots (level : Nat) (tree : FileTree) (registry : Registry)
    (extension : Text) (instructions : List Instruction) :
    exists seen,
      (resolve level tree registry [] ⟨extension, declared instructions, []⟩ []).result =
        .ok (unrooted instructions, seen) := by
  rw [resolve_eq_searchNames, Traced.result_note_andThen]
  have hnames : unsettled [] (declared instructions) =
      ((declared instructions).filter fun name => !isNone name).eraseDups := by
    rw [unsettled]
    congr 1
    apply List.filter_congr
    intro name _
    simp
  have hsearch := searchNames_no_roots level (openBelow tree registry extension)
    (resolve level tree registry []) (declared instructions) []
  rw [hnames] at hsearch
  exact hsearch

end Dependency

theorem Reply.andThen_result_eq_map {α β : Type} {first : Reply α}
    {second : Document -> α -> Reply β} {f : α -> β}
    (h : forall document a, (second document a).result = .ok (f a)) :
    (first.andThen second).result = first.result.map f := by
  cases hfirst : first.result with
  | error failure =>
      rw [andThen_of_error hfirst]
      rfl
  | ok a =>
      rw [andThen_of_ok hfirst]
      exact h first.document a

namespace Document

variable {level : Nat} {tree : FileTree} {document : Document}

/-!
## What is not kept is derived from the instructions
-/

theorem className_result_of_not_kept (h : document.className? = none) (tree : FileTree) :
    (document.className level tree).result =
      (document.instructions level tree).result.map Instruction.className := by
  simp only [className, h]
  apply Reply.andThen_result_eq_map
  intro later instructions
  rfl

theorem className_of_kept {name : Text} (h : document.className? = some name)
    (tree : FileTree) : document.className level tree = ⟨document, [], .ok (some name)⟩ := by
  simp only [className, h]

theorem page_document (level : Nat) (tree : FileTree) (document : Document)
    (options : PageOptions) :
    (document.page level tree options).document =
      (document.instructions level tree).document := by
  unfold page
  cases hread : (document.instructions level tree).result with
  | error failure => rw [Reply.andThen_of_error hread]
  | ok instructions => rw [Reply.andThen_of_ok hread]

theorem page_result (level : Nat) (tree : FileTree) (document : Document)
    (options : PageOptions) :
    (document.page level tree options).result =
      (document.instructions level tree).result.map (Page.render options) := by
  apply Reply.andThen_result_eq_map
  intro later instructions
  rfl

theorem dependenciesFrom_no_roots (level : Nat) (tree : FileTree) (document : Document) :
    (document.dependenciesFrom level tree [] []).result.map Prod.fst =
      (document.instructions level tree).result.map Dependency.unrooted := by
  cases hread : (document.instructions level tree).result with
  | error failure => rw [dependenciesFrom_of_error hread, Except.map, Except.map]
  | ok instructions =>
      rcases Dependency.resolve_no_roots level tree document.registry document.extension
        instructions with ⟨seen, hseen⟩
      rw [dependenciesFrom_of_ok hread, hseen, Except.map, Except.map]

theorem instructions_of_kept {instructions : List Instruction}
    (h : document.instructions? = some instructions) (tree : FileTree) :
    document.instructions level tree = ⟨document, [], .ok instructions⟩ := by
  simp only [Document.instructions, h]

theorem instructions_of_not_kept (h : document.instructions? = none) (tree : FileTree) :
    document.instructions level tree = document.read level tree := by
  simp only [Document.instructions, h]

/-!
## What an operation changes
-/

theorem chooseDialect_document (document : Document) :
    exists dialect?,
      document.chooseDialect.document = { document with dialect? := dialect? } := by
  unfold chooseDialect
  cases document.registry.forExtension document.extension with
  | error failure => exact ⟨document.dialect?, rfl⟩
  | ok dialect => exact ⟨some dialect, rfl⟩

theorem dialect_document (document : Document) :
    exists dialect?, document.dialect.document = { document with dialect? := dialect? } := by
  unfold dialect
  cases hkept : document.dialect? with
  | some dialect => exact ⟨document.dialect?, rfl⟩
  | none => exact document.chooseDialect_document

/-- A reading that fails may have chosen a dialect; one that does not also keeps the
instructions.  Neither touches the name or the dependencies. -/
theorem read_cases (level : Nat) (tree : FileTree) (document : Document) :
    exists dialect?,
      (exists failure, (document.read level tree).result = .error failure ∧
        (document.read level tree).document = { document with dialect? := dialect? }) ∨
      exists instructions, (document.read level tree).result = .ok instructions ∧
        (document.read level tree).document =
          { document with dialect? := dialect?, instructions? := some instructions } := by
  rcases Option.eq_none_or_eq_some document.path? with hpath | ⟨path, hpath⟩
  · rw [read_of_no_path hpath]
    exact ⟨document.dialect?, Or.inr ⟨[], rfl, rfl⟩⟩
  · rcases document.dialect_document with ⟨dialect?, hdocument⟩
    refine ⟨dialect?, ?_⟩
    rw [read_of_path hpath]
    cases hdialect : document.dialect.result with
    | error failure =>
        rw [Reply.andThen_of_error hdialect]
        exact Or.inl ⟨failure, rfl, hdocument⟩
    | ok dialect =>
        rw [Reply.andThen_of_ok hdialect, hdocument]
        unfold Reply.ofTraced
        cases (tree.extract level path dialect.language).result with
        | error failure => exact Or.inl ⟨failure, rfl, rfl⟩
        | ok instructions => exact Or.inr ⟨instructions, rfl, rfl⟩

theorem read_frame (level : Nat) (tree : FileTree) (document : Document) :
    (document.read level tree).document.className? = document.className? ∧
      (document.read level tree).document.resolved = document.resolved := by
  rcases document.read_cases level tree with
    ⟨dialect?, ⟨failure, _, hdocument⟩ | ⟨instructions, _, hdocument⟩⟩
  · rw [hdocument]
    exact ⟨rfl, rfl⟩
  · rw [hdocument]
    exact ⟨rfl, rfl⟩

/-!
## The kept list accounts for what else is kept
-/

/-- A kept name and kept dependencies without search roots come from the kept
instructions. -/
structure Consistent (document : Document) : Prop where
  className_eq : forall name, document.className? = some name ->
    exists instructions, document.instructions? = some instructions ∧
      Instruction.className instructions = some name
  unrooted_eq : forall kept, document.resolved.lookup [] = some kept ->
    exists instructions, document.instructions? = some instructions ∧
      kept = Dependency.unrooted instructions

/-- A reading gives instructions that a kept name or kept dependencies without
search roots do not come from. -/
def Outdated (level : Nat) (tree : FileTree) (document : Document) : Prop :=
  exists instructions, (document.read level tree).result = .ok instructions ∧
    ((exists name, document.className? = some name ∧
        Instruction.className instructions ≠ some name) ∨
      exists kept, document.resolved.lookup [] = some kept ∧
        kept ≠ Dependency.unrooted instructions)

namespace Consistent

theorem of_underived (hname : document.className? = none) (hresolved : document.resolved = []) :
    Consistent document where
  className_eq := by
    intro name hkept
    rw [hname] at hkept
    cases hkept
  unrooted_eq := by
    intro kept hkept
    rw [hresolved] at hkept
    cases hkept

theorem withDialect (h : Consistent document) (dialect? : Option Dialect) :
    Consistent { document with dialect? := dialect? } :=
  ⟨h.className_eq, h.unrooted_eq⟩

theorem chooseDialect (h : Consistent document) :
    Consistent document.chooseDialect.document := by
  rcases document.chooseDialect_document with ⟨dialect?, hdocument⟩
  rw [hdocument]
  exact h.withDialect dialect?

theorem dialect (h : Consistent document) : Consistent document.dialect.document := by
  rcases document.dialect_document with ⟨dialect?, hdocument⟩
  rw [hdocument]
  exact h.withDialect dialect?

theorem read (h : Consistent document) (hfresh : ¬ Outdated level tree document) :
    Consistent (document.read level tree).document := by
  rcases document.read_cases level tree with
    ⟨dialect?, ⟨failure, hread, hdocument⟩ | ⟨instructions, hread, hdocument⟩⟩
  · rw [hdocument]
    exact h.withDialect dialect?
  · rw [hdocument]
    constructor
    · intro name hkept
      refine ⟨instructions, rfl, ?_⟩
      by_contra hother
      exact hfresh ⟨instructions, hread, Or.inl ⟨name, hkept, hother⟩⟩
    · intro kept hkept
      refine ⟨instructions, rfl, ?_⟩
      by_contra hother
      exact hfresh ⟨instructions, hread, Or.inr ⟨kept, hkept, hother⟩⟩

theorem not_outdated (h : Consistent document) (hnone : document.instructions? = none) :
    ¬ Outdated level tree document := by
  rintro ⟨fresh, hread, ⟨name, hkept, hother⟩ | ⟨kept, hkept, hother⟩⟩
  · rcases h.className_eq name hkept with ⟨instructions, hlist, hname⟩
    rw [hnone] at hlist
    cases hlist
  · rcases h.unrooted_eq kept hkept with ⟨instructions, hlist, hunrooted⟩
    rw [hnone] at hlist
    cases hlist

theorem instructions (h : Consistent document) (level : Nat) (tree : FileTree) :
    Consistent (document.instructions level tree).document := by
  cases hkept : document.instructions? with
  | some instructions =>
      rw [instructions_of_kept hkept]
      exact h
  | none =>
      rw [instructions_of_not_kept hkept]
      exact h.read (h.not_outdated hkept)

theorem className (h : Consistent document) (level : Nat) (tree : FileTree) :
    Consistent (document.className level tree).document := by
  unfold Document.className
  cases hkept : document.className? with
  | some name => exact h
  | none =>
      have hlater := h.instructions level tree
      cases hread : (document.instructions level tree).result with
      | error failure =>
          simp only [Reply.andThen_of_error hread]
          exact hlater
      | ok instructions =>
          simp only [Reply.andThen_of_ok hread]
          refine { hlater with className_eq := ?_ }
          intro name hname
          exact ⟨instructions, instructions_keeps hread, hname⟩

theorem dependencies (h : Consistent document) (level : Nat) (tree : FileTree)
    (roots : List Path) :
    Consistent (document.dependencies level tree roots).document := by
  cases hkept : document.resolved.lookup roots with
  | some kept =>
      rw [dependencies_of_kept hkept]
      exact h
  | none =>
      have hlater : Consistent (document.dependenciesFrom level tree roots []).document := by
        rw [dependenciesFrom_document]
        exact h.instructions level tree
      simp only [Document.dependencies, hkept]
      cases hfound : (document.dependenciesFrom level tree roots []).result with
      | error failure =>
          rw [Reply.andThen_of_error hfound]
          exact hlater
      | ok found =>
          rw [Reply.andThen_of_ok hfound]
          refine { hlater with unrooted_eq := ?_ }
          intro kept hlookup
          rw [List.lookup_cons] at hlookup
          split at hlookup
          · rename_i hsame
            cases hlookup
            cases eq_of_beq hsame
            have hunrooted := document.dependenciesFrom_no_roots level tree
            rw [hfound] at hunrooted
            cases hread : (document.instructions level tree).result with
            | error failure =>
                rw [hread] at hunrooted
                cases hunrooted
            | ok instructions =>
                rw [hread] at hunrooted
                refine ⟨instructions, ?_, Except.ok.inj hunrooted⟩
                rw [dependenciesFrom_document]
                exact instructions_keeps hread
          · exact hlater.unrooted_eq kept hlookup

theorem replaceBy (h : Consistent document) {replacing : Except Failure Document}
    (hplace : forall place, replacing = .ok place -> Consistent place) :
    Consistent (document.replaceBy replacing).document := by
  cases replacing with
  | error failure => exact h
  | ok place => exact hplace place rfl

theorem perform (h : Consistent document) {operation : Operation}
    (hfresh : operation = .read -> ¬ Outdated level tree document) :
    Consistent (document.perform level tree operation).document := by
  cases operation with
  | new path? => exact of_underived rfl rfl
  | setPath path => exact of_underived rfl rfl
  | forClass root name extension =>
      apply h.replaceBy
      intro place hplace
      unfold forClass at hplace
      split at hplace
      · cases hplace
      · cases hplace
        exact of_underived rfl rfl
  | setDialect extension =>
      apply h.replaceBy
      intro place hplace
      unfold setDialect at hplace
      split at hplace
      · cases hplace
      · cases hplace
        exact of_underived rfl rfl
  | dialect => exact h.dialect
  | read => exact h.read (hfresh rfl)
  | instructions => exact h.instructions level tree
  | className => exact h.className level tree
  | dependencies roots => exact h.dependencies level tree roots
  | dependenciesFrom roots visited =>
      rw [Document.perform, Reply.map_document, dependenciesFrom_document]
      exact h.instructions level tree
  | page options =>
      rw [Document.perform, Reply.map_document, page_document]
      exact h.instructions level tree
  | fileExists => exact h
  | fullPath directory => exact h

end Consistent
end Document

/-!
## Documents among changing files
-/

/-- A document and the files as they are now, and the level at which notes are shown. -/
structure Scene where
  level : Nat
  tree : FileTree
  document : Document

/-- What happens next: an operation, a fresh choice of the dialect by the extension,
or a change of the files. -/
inductive Happening where
  | perform (operation : Operation)
  | chooseDialect
  | change (tree : FileTree)

namespace Scene

def step (scene : Scene) : Happening -> Scene
  | .perform operation =>
      ⟨scene.level, scene.tree,
        (scene.document.perform scene.level scene.tree operation).document⟩
  | .chooseDialect => ⟨scene.level, scene.tree, scene.document.chooseDialect.document⟩
  | .change tree => ⟨scene.level, tree, scene.document⟩

def run (scene : Scene) (happenings : List Happening) : Scene :=
  happenings.foldl step scene

/-- The name, the page and the dependencies without search roots that the document
would give now are those of the instructions that it would give now. -/
structure Coherent (scene : Scene) : Prop where
  className_eq : (scene.document.className scene.level scene.tree).result =
    (scene.document.instructions scene.level scene.tree).result.map Instruction.className
  page_eq : forall options, (scene.document.page scene.level scene.tree options).result =
    (scene.document.instructions scene.level scene.tree).result.map (Page.render options)
  unrooted_eq : (scene.document.dependencies scene.level scene.tree []).result =
    (scene.document.instructions scene.level scene.tree).result.map Dependency.unrooted

/-- A reading of the files as they are now would leave something outdated. -/
def Outdates (scene : Scene) : Prop :=
  scene.document.Outdated scene.level scene.tree

theorem coherent_of_consistent {scene : Scene} (h : scene.document.Consistent) :
    Coherent scene := by
  constructor
  · cases hkept : scene.document.className? with
    | none => exact Document.className_result_of_not_kept hkept scene.tree
    | some name =>
        rcases h.className_eq name hkept with ⟨instructions, hlist, hname⟩
        rw [Document.instructions_of_kept hlist, Document.className_of_kept hkept,
          Except.map, hname]
  · exact scene.document.page_result scene.level scene.tree
  · cases hkept : scene.document.resolved.lookup [] with
    | none =>
        rw [Document.dependencies_result_of_not_kept hkept]
        exact scene.document.dependenciesFrom_no_roots scene.level scene.tree
    | some kept =>
        rcases h.unrooted_eq kept hkept with ⟨instructions, hlist, hunrooted⟩
        rw [Document.instructions_of_kept hlist, Document.dependencies_of_kept hkept,
          Except.map, hunrooted]

theorem step_consistent {scene : Scene} {happening : Happening}
    (h : scene.document.Consistent)
    (hfresh : happening = .perform .read -> ¬ Outdates scene) :
    (scene.step happening).document.Consistent := by
  cases happening with
  | perform operation =>
      apply h.perform
      intro hread
      exact hfresh (congrArg Happening.perform hread)
  | chooseDialect => exact h.chooseDialect
  | change tree => exact h

/-- A reading that outdates what is kept is not made good by anything that it does. -/
theorem not_coherent_of_outdates {scene : Scene} (h : Outdates scene) :
    ¬ Coherent (scene.step (.perform .read)) := by
  intro hcoherent
  rcases h with ⟨fresh, hread, hstale⟩
  have hlist : (scene.step (.perform .read)).document.instructions? = some fresh :=
    Document.read_keeps hread
  rcases scene.document.read_frame scene.level scene.tree with ⟨hsameName, hsameResolved⟩
  rcases hstale with ⟨name, hkept, hother⟩ | ⟨kept, hkept, hother⟩
  · have hname : (scene.step (.perform .read)).document.className? = some name :=
      hsameName.trans hkept
    have heq := hcoherent.className_eq
    rw [Document.className_of_kept hname, Document.instructions_of_kept hlist] at heq
    exact hother (Except.ok.inj heq).symm
  · have hresolved : (scene.step (.perform .read)).document.resolved.lookup [] =
        some kept :=
      (congrArg (List.lookup []) hsameResolved).trans hkept
    have heq := hcoherent.unrooted_eq
    rw [Document.dependencies_of_kept hresolved,
      Document.instructions_of_kept hlist] at heq
    exact hother (Except.ok.inj heq)

theorem run_append_singleton (scene : Scene) (happenings : List Happening)
    (happening : Happening) :
    scene.run (happenings ++ [happening]) = (scene.run happenings).step happening := by
  rw [run, List.foldl_append]
  rfl

theorem run_consistent {scene : Scene} (h : scene.document.Consistent)
    (happenings : List Happening)
    (hfresh : forall reached, reached ++ [.perform .read] <+: happenings ->
      ¬ Outdates (scene.run reached)) :
    (scene.run happenings).document.Consistent := by
  induction happenings using List.reverseRecOn with
  | nil => exact h
  | append_singleton happenings happening ih =>
      rw [run_append_singleton]
      apply step_consistent
      · apply ih
        intro reached hreached
        exact hfresh reached (hreached.trans (List.prefix_append happenings [happening]))
      · intro hread
        apply hfresh happenings
        rw [hread]

/-- In every state of a run the document is coherent, if and only if no reading of
the run outdates what the document keeps. -/
theorem coherent_iff_never_outdated (level : Nat) (tree : FileTree) (registry : Registry)
    (path? : Option Path) (happenings : List Happening) :
    (forall reached, reached <+: happenings ->
      Coherent (run ⟨level, tree, Document.new registry path?⟩ reached)) <->
    forall reached, reached ++ [.perform .read] <+: happenings ->
      ¬ Outdates (run ⟨level, tree, Document.new registry path?⟩ reached) := by
  constructor
  · intro hcoherent reached hreached houtdates
    apply not_coherent_of_outdates houtdates
    rw [<- run_append_singleton]
    exact hcoherent _ hreached
  · intro hfresh reached hreached
    apply coherent_of_consistent
    apply run_consistent (Document.Consistent.of_underived rfl rfl)
    intro earlier hearlier
    exact hfresh earlier (hearlier.trans hreached)

def namedModule (name : Text) : FileTree :=
  .ofListing (.entry "A.pm".toList
    (.file (.ofText ("=head1 NAME\n".toList ++ name ++ "\n".toList))) .empty)

/-- The name is asked for, the file is written anew and read again. -/
def renamed : List Happening :=
  [.perform .className, .change (namedModule "B".toList), .perform .read]

/-- The document still gives the name that its instructions no longer give. -/
theorem renamed_not_coherent :
    ¬ Coherent (run ⟨0, namedModule "A".toList,
      Document.new ⟨[], some .perl⟩ (some (Path.ofText "A.pm".toList))⟩ renamed) := by
  intro hcoherent
  have heq := congrArg Except.toOption hcoherent.className_eq
  revert heq
  decide +kernel

end Scene
end PodManual
