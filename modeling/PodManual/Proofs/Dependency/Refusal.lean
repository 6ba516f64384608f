import PodManual.Proofs.Dependency.Origin
import PodManual.Proofs.FileTree.Follow

/-!
# When reading and resolving fail

Whatever a file holds, reading it gives a list, and so does reading a file that may not
be read or what is no file at all.  Names that cannot be found do no harm either: they
become dependencies without a root.  What does harm is a path that cannot be looked up,
because a name in it is too long or a directory on its way may not be searched: the
question whether there is a file is asked outside of what guards the reading of the file.

Main statement: with a registry of named dialects, reading and resolving fail exactly
when a path that is looked up is refused, and then with that path and its fault; a result
has every declared name, and those without a file below any root have no root.
-/

namespace PodManual

namespace FileTree

variable {level : Nat} {tree : FileTree} {path : Path}

/-- There is a regular file at the path, and it may be read. -/
def IsReadable (tree : FileTree) (path : Path) : Prop :=
  exists file, tree.fileAt? path = .ok (some file) ∧ file.access.read = true

theorem extract_eq_error_iff {language : Language} {failure : Failure} :
    (tree.extract level path language).result = .error failure <->
      exists fault, tree.Fails path fault ∧ failure = .file fault path.toText := by
  rw [← fileAt?_eq_error_iff]
  unfold extract
  cases tree.fileAt? path with
  | error other => simp [Traced.fail]
  | ok file? => cases file? <;> simp

theorem isFile_eq_false_iff : tree.isFile path = .ok false <-> tree.fileAt? path = .ok none := by
  unfold isFile
  cases tree.fileAt? path with
  | error failure => simp
  | ok file? => cases file? <;> simp

theorem extract_of_not_readable {language : Language} {instructions : List Instruction}
    (h : (tree.extract level path language).result = .ok instructions)
    (hunreadable : ¬ tree.IsReadable path) : instructions = [] := by
  unfold extract at h
  cases hfile : tree.fileAt? path with
  | error failure =>
      rw [hfile] at h
      cases h
  | ok file? =>
      rw [hfile] at h
      cases file? with
      | none =>
          cases h
          rfl
      | some file =>
          have hread : file.access.read = false := by
            rw [Bool.eq_false_iff]
            exact fun hread => hunreadable ⟨file, hfile, hread⟩
          cases h
          rw [Language.extractFile, hread]
          rfl

end FileTree

namespace Dependency

/-!
## Failures of a search
-/

section Sources

variable {descend : Declaring -> List Text -> Traced Found}

theorem failure_of_searchRoots {openAt : Path -> Except Failure (Option Declaring)}
    {roots : List Path} {visited : List Text} {failure : Failure}
    (h : (searchRoots openAt descend roots visited).result = .error failure) :
    (exists root, openAt root = .error failure) ∨
      exists document later, (descend document later).result = .error failure := by
  induction roots generalizing visited with
  | nil => cases h
  | cons root roots ih =>
      rcases searchRoots_cons_eq_error.mp h with
        hopen | ⟨_, hrest⟩ | ⟨document, _, hbelow | ⟨below, _, hrest⟩⟩
      · exact Or.inl ⟨root, hopen⟩
      · exact ih hrest
      · exact Or.inr ⟨document, visited, hbelow⟩
      · exact ih hrest

theorem failure_of_searchNames {level : Nat}
    {openAt : Path -> Text -> Except Failure (Option Declaring)}
    {roots : List Path} {names visited : List Text} {failure : Failure}
    (h : (searchNames level openAt descend roots names visited).result = .error failure) :
    (exists root name, openAt root name = .error failure) ∨
      exists document later, (descend document later).result = .error failure := by
  induction names generalizing visited with
  | nil => cases h
  | cons name names ih =>
      by_cases hskip : Settled visited name
      · rw [searchNames_cons_of_settled names hskip] at h
        exact ih h
      · rcases (searchNames_cons_eq_error hskip).mp h with hroots | ⟨own, _, hrest⟩
        · rcases failure_of_searchRoots hroots with ⟨root, hopen⟩ | hdescend
          · exact Or.inl ⟨root, name, hopen⟩
          · exact Or.inr hdescend
        · exact ih hrest

end Sources

variable {level : Nat} {tree : FileTree} {registry : Registry} {roots : List Path}

theorem failure_of_search {depth : Nat} {document : Declaring} {visited : List Text}
    {failure : Failure}
    (h : (search level tree registry roots depth document visited).result = .error failure) :
    failure = .tooDeep ∨
      exists extension root name,
        openBelow tree registry extension root name = .error failure := by
  induction depth generalizing document visited with
  | zero =>
      cases h
      exact Or.inl rfl
  | succ depth ih =>
      rw [search, Traced.result_note_andThen] at h
      rcases failure_of_searchNames h with ⟨root, name, hopen⟩ | ⟨next, later, hbelow⟩
      · exact Or.inr ⟨document.extension, root, name, hopen⟩
      · exact ih hbelow

theorem failure_of_resolve {document : Declaring} {visited : List Text} {failure : Failure}
    (h : (resolve level tree registry roots document visited).result = .error failure) :
    exists extension root name,
      openBelow tree registry extension root name = .error failure := by
  rcases failure_of_search h with rfl | hopen
  · exact absurd h (resolve_ne_tooDeep document visited)
  · exact hopen

/-!
## Look-ups that are refused
-/

section Default

variable {fallback : Dialect} (hdefault : registry.default? = some fallback)

include hdefault

theorem openBelow_eq_error_iff {extension name : Text} {root : Path} {failure : Failure} :
    openBelow tree registry extension root name = .error failure <->
      exists dialect, registry.forExtension extension = .ok dialect ∧
        exists fault, tree.Fails (pathOf dialect root name) fault ∧
          failure = .file fault (pathOf dialect root name).toText := by
  rcases Registry.exists_forExtension hdefault extension with ⟨dialect, hdialect⟩
  rw [openBelow_eq_error]
  simp [hdialect, FileTree.fileAt?_eq_error_iff]

theorem openBelow_eq_none_iff {extension name : Text} {root : Path} :
    openBelow tree registry extension root name = .ok none <->
      exists dialect, registry.forExtension extension = .ok dialect ∧
        tree.isFile (pathOf dialect root name) = .ok false := by
  rcases Registry.exists_forExtension hdefault extension with ⟨dialect, hdialect⟩
  simp only [hdialect, Except.ok.injEq, exists_eq_left', FileTree.isFile_eq_false_iff, openBelow]
  cases tree.fileAt? (pathOf dialect root name) with
  | error failure => simp
  | ok file? => cases file? <;> simp

end Default

namespace Worklist

/-- The worklist comes to look up a name by a path that is refused. -/
def IsRefused (tree : FileTree) (registry : Registry) (roots : List Path)
    (list : Worklist) : Prop :=
  exists extension name dialect root fault,
    Visits tree registry roots list extension name ∧
    registry.forExtension extension = .ok dialect ∧ root ∈ roots ∧
    tree.Fails (pathOf dialect root name) fault

theorem raises_iff_isRefused {fallback : Dialect} (hdefault : registry.default? = some fallback)
    {list : Worklist} :
    Raises tree registry roots list <-> IsRefused tree registry roots list := by
  constructor
  · rintro ⟨last, failure, hruns, hstep⟩
    rcases step?_eq_error hstep with ⟨extension, name, pending, hpending, hfresh, hexpand⟩
    have hvisits : Visits tree registry roots list extension name := by
      rcases last with ⟨_, visited, emitted⟩
      cases hpending
      exact ⟨pending, visited, emitted, hruns, hfresh⟩
    -- A step looks below all roots, so any of the look-ups may have failed.
    have hfails : ¬ forall root, root ∈ roots ->
        exists opened, openBelow tree registry extension root name = .ok opened := by
      intro hall
      rcases expand_eq_ok_iff.mpr hall with ⟨expanded, hok⟩
      rw [hexpand] at hok
      cases hok
    rw [not_forall] at hfails
    rcases hfails with ⟨root, hroot⟩
    rw [Classical.not_imp] at hroot
    cases hopen : openBelow tree registry extension root name with
    | ok opened => exact absurd ⟨opened, hopen⟩ hroot.right
    | error other =>
        rcases (openBelow_eq_error_iff hdefault).mp hopen with
          ⟨dialect, hdialect, fault, hfault, _⟩
        exact ⟨extension, name, dialect, root, fault, hvisits, hdialect, hroot.left, hfault⟩
  · rintro ⟨extension, name, dialect, root, fault,
      ⟨pending, visited, emitted, hruns, hfresh⟩, hdialect, hroot, hfault⟩
    cases hexpand : expand tree registry extension name roots with
    | error failure => exact Raises.of_runs hruns (Raises.of_expand hfresh hexpand)
    | ok expanded =>
        rcases expand_eq_ok_iff.mp ⟨expanded, hexpand⟩ root hroot with ⟨opened, hopened⟩
        rw [(openBelow_eq_error_iff hdefault).mpr
          ⟨dialect, hdialect, fault, hfault, rfl⟩] at hopened
        cases hopened

/-!
## Declared names
-/

theorem Ends.of_runs {list middle : Worklist} {found : Found}
    (hends : Ends tree registry roots list found)
    (hruns : Runs tree registry roots list middle) : Ends tree registry roots middle found := by
  rcases runs_or_runs hends hruns with hback | hon
  · rw [← hback.eq_of_stuck (by simp [step?_done])]
    exact Runs.refl _
  · exact hon

theorem Ends.settles_opened {list : Worklist} {found : Found}
    (hends : Ends tree registry roots list found) {opened : Document}
    (hopens : Opens tree registry roots list opened) {instructions : List Instruction}
    (hread : (opened.instructions level tree).result = .ok instructions) {name : Text}
    (hname : name ∈ declared instructions) : Settled found.2 name := by
  rcases hopens with ⟨extension, other, root,
    ⟨pending, visited, emitted, hruns, hfresh⟩, hroot, hbelow⟩
  rcases Document.instructions_of_below? level hbelow with
    ⟨_, again, remarks, hagain, _, hopen⟩
  rw [hread] at hagain
  cases hagain
  have hon := hends.of_runs hruns
  -- The end has nothing pending, so a step is taken for the name.
  rcases Relation.ReflTransGen.cases_head hon with heq | ⟨next, hstep, hrest⟩
  · cases heq
  · rcases step?_cases hstep with ⟨_, _, _, hpending, ⟨hskip, _⟩ | ⟨_, _, children, hexpand, rfl⟩⟩
    · cases hpending
      exact absurd hskip hfresh
    · cases hpending
      have hentry : (opened.extension, name) ∈ children :=
        (mem_expand hexpand).mpr
          ⟨root, _, hroot, hopen, List.mem_map_of_mem hname⟩
      exact Ends.settles hrest (Or.inl (List.mem_append_left _ hentry))

end Worklist
end Dependency

namespace Document

open Dependency Worklist

/-- The name is declared by the document, or by one that its resolution opens. -/
def IsDeclared (level : Nat) (tree : FileTree) (document : Document) (roots : List Path)
    (instructions : List Instruction) (name : Text) : Prop :=
  name ∈ declared instructions ∨
    exists opened read,
      Opens tree document.registry roots (start document instructions []) opened ∧
      (opened.instructions level tree).result = .ok read ∧ name ∈ declared read

/-- The document cannot be looked up, or a name that its resolution comes to cannot. -/
def IsRefused (level : Nat) (tree : FileTree) (document : Document) (roots : List Path) :
    Prop :=
  (exists path fault, document.path? = some path ∧ tree.Fails path fault) ∨
    exists instructions, (document.instructions level tree).result = .ok instructions ∧
      Worklist.IsRefused tree document.registry roots (start document instructions [])

variable {level : Nat} {tree : FileTree} {document : Document} {roots : List Path}

theorem instructions_eq_error_iff {fallback : Dialect}
    (hdefault : document.registry.default? = some fallback)
    (hfresh : document.instructions? = none) {failure : Failure} :
    (document.instructions level tree).result = .error failure <->
      exists path fault, document.path? = some path ∧ tree.Fails path fault ∧
        failure = .file fault path.toText := by
  unfold Document.instructions
  rw [hfresh]
  cases hpath : document.path? with
  | none => simp [read_of_no_path hpath]
  | some path =>
      simp only [read_of_path hpath, Option.some.injEq, exists_and_left, exists_eq_left']
      have hdialect : exists dialect, document.dialect.result = .ok dialect := by
        cases hresult : document.dialect.result with
        | ok dialect => exact ⟨dialect, rfl⟩
        | error other =>
            rcases Registry.exists_forExtension hdefault document.extension with ⟨dialect, hok⟩
            rw [dialect_eq_error hresult] at hok
            cases hok
      rcases hdialect with ⟨dialect, hdialect⟩
      rw [Reply.andThen_of_ok hdialect]
      simp only [Reply.ofTraced_result]
      exact FileTree.extract_eq_error_iff

theorem dependenciesFrom_eq_error_iff {fallback : Dialect}
    (hdefault : document.registry.default? = some fallback)
    (hfresh : document.instructions? = none) :
    (exists failure, (document.dependenciesFrom level tree roots []).result = .error failure) <->
      IsRefused level tree document roots := by
  rw [(dependenciesFrom_eq_worklist level tree document roots []).right]
  simp only [instructions_eq_error_iff hdefault hfresh, raises_iff_isRefused hdefault]
  unfold IsRefused
  constructor
  · rintro (⟨_, path, fault, hpath, hfault, _⟩ | hlist)
    · exact Or.inl ⟨path, fault, hpath, hfault⟩
    · exact Or.inr hlist
  · rintro (⟨path, fault, hpath, hfault⟩ | hlist)
    · exact Or.inl ⟨_, path, fault, hpath, hfault, rfl⟩
    · exact Or.inr hlist

/-- Every failure names a path that is refused, with its fault. -/
theorem failure_of_dependenciesFrom {fallback : Dialect}
    (hdefault : document.registry.default? = some fallback)
    (hfresh : document.instructions? = none) {failure : Failure}
    (h : (document.dependenciesFrom level tree roots []).result = .error failure) :
    exists path fault, tree.Fails path fault ∧ failure = .file fault path.toText := by
  cases hread : (document.instructions level tree).result with
  | error other =>
      rw [dependenciesFrom_of_error hread] at h
      cases h
      rcases (instructions_eq_error_iff hdefault hfresh).mp hread with
        ⟨path, fault, _, hfault⟩
      exact ⟨path, fault, hfault⟩
  | ok instructions =>
      rw [dependenciesFrom_of_ok hread] at h
      rcases failure_of_resolve h with ⟨extension, root, name, hopen⟩
      rcases (openBelow_eq_error_iff hdefault).mp hopen with ⟨dialect, _, fault, hfault⟩
      exact ⟨pathOf dialect root name, fault, hfault⟩

/-- Every declared name that does not stand for none is found, and it has no root
exactly when there is no file of it below any root. -/
theorem exists_of_isDeclared {fallback : Dialect}
    (hdefault : document.registry.default? = some fallback)
    {instructions : List Instruction} {found : Found}
    (hread : (document.instructions level tree).result = .ok instructions)
    (h : (document.dependenciesFrom level tree roots []).result = .ok found) {name : Text}
    (hdeclared : IsDeclared level tree document roots instructions name)
    (hnone : Text.lower name ≠ "none".toList) :
    exists extension dialect root?,
      Visits tree document.registry roots (start document instructions []) extension name ∧
      document.registry.forExtension extension = .ok dialect ∧
      Dependency.mk name root? ∈ found.1 ∧
      (root? = none <-> forall root, root ∈ roots ->
        tree.isFile (pathOf dialect root name) = .ok false) := by
  rcases ends_of_dependenciesFrom h with ⟨again, hagain, hends⟩
  rw [hread] at hagain
  cases hagain
  have hsettled : Settled found.2 name := by
    rcases hdeclared with hown | ⟨opened, read, hopens, hopened, hname⟩
    · exact hends.settles (Or.inl (List.mem_map_of_mem hown))
    · exact hends.settles_opened hopens hopened hname
  have hmem : name ∈ names found.1 := by
    have haccounts := (accounts_start document instructions []).runs hends
    have hvisited : found.2 = (names found.1).reverse ++ [] := haccounts.visited_eq
    rcases settled_iff.mp hsettled with hvisit | hsentinel
    · rw [hvisited, List.append_nil] at hvisit
      exact List.mem_reverse.mp hvisit
    · exact absurd hsentinel hnone
  rcases List.mem_map.mp hmem with ⟨⟨_, root?⟩, hdependency, rfl⟩
  rcases expand_of_mem_dependenciesFrom hread h hdependency with
    ⟨extension, children, hvisits, hexpand⟩
  rcases Registry.exists_forExtension hdefault extension with ⟨dialect, hdialect⟩
  refine ⟨extension, dialect, root?, hvisits, hdialect, hdependency, ?_⟩
  rw [(expand_root hexpand).left]
  simp only [openBelow_eq_none_iff hdefault, hdialect, Except.ok.injEq, exists_eq_left']

theorem dependencies_of_fresh (hfresh : document.resolved = []) :
    (document.dependencies level tree roots).result =
      (document.dependenciesFrom level tree roots []).result.map Prod.fst := by
  apply dependencies_result_of_not_kept
  rw [hfresh]
  rfl

/-- With a registry of named dialects, a path is read and a document resolved unless a
look-up is refused.  What is no file that may be read reads as empty; a resolution has
every declared name, and without a root those that have no file below any root. -/
theorem reading_fails_iff_refused {names? : Option (List Text)} {registry : Registry}
    (hregistry : Registry.ofNames names? = .ok registry) (level : Nat) (tree : FileTree) :
    (forall path language,
      (forall fault, tree.Fails path fault ->
        (tree.extract level path language).result = .error (.file fault path.toText)) ∧
      ((forall fault, ¬ tree.Fails path fault) ->
        exists instructions, (tree.extract level path language).result = .ok instructions ∧
          (¬ tree.IsReadable path -> instructions = []))) ∧
    (forall document roots,
      document.registry = registry -> document.instructions? = none ->
      document.resolved = [] ->
      (IsRefused level tree document roots ->
        exists path fault, tree.Fails path fault ∧
          (document.dependencies level tree roots).result =
            .error (.file fault path.toText)) ∧
      (¬ IsRefused level tree document roots ->
        exists instructions dependencies,
          (document.instructions level tree).result = .ok instructions ∧
          (document.dependencies level tree roots).result = .ok dependencies ∧
          forall name, IsDeclared level tree document roots instructions name ->
            Text.lower name ≠ "none".toList ->
            exists extension dialect root?,
              Visits tree registry roots (start document instructions []) extension name ∧
              registry.forExtension extension = .ok dialect ∧
              Dependency.mk name root? ∈ dependencies ∧
              (root? = none <-> forall root, root ∈ roots ->
                tree.isFile (pathOf dialect root name) = .ok false))) := by
  have hdefault := Registry.default?_of_ofNames hregistry
  constructor
  · intro path language
    constructor
    · intro fault hfault
      exact FileTree.extract_eq_error_iff.mpr ⟨fault, hfault, rfl⟩
    · intro hquiet
      cases hresult : (tree.extract level path language).result with
      | error failure =>
          rcases FileTree.extract_eq_error_iff.mp hresult with ⟨fault, hfault, _⟩
          exact absurd hfault (hquiet fault)
      | ok instructions =>
          exact ⟨instructions, rfl, FileTree.extract_of_not_readable hresult⟩
  · rintro document roots rfl hinstructions hresolved
    rw [dependencies_of_fresh hresolved]
    constructor
    · intro hrefused
      rcases (dependenciesFrom_eq_error_iff hdefault hinstructions).mpr hrefused with
        ⟨failure, hfails⟩
      rcases failure_of_dependenciesFrom hdefault hinstructions hfails with
        ⟨path, fault, hfault, rfl⟩
      exact ⟨path, fault, hfault, by rw [hfails, Except.map]⟩
    · intro hquiet
      cases hresult : (document.dependenciesFrom level tree roots []).result with
      | error failure =>
          exact absurd ((dependenciesFrom_eq_error_iff hdefault hinstructions).mp
            ⟨failure, hresult⟩) hquiet
      | ok found =>
          rcases ends_of_dependenciesFrom hresult with ⟨instructions, hread, _⟩
          refine ⟨instructions, found.1, hread, rfl, ?_⟩
          intro name hdeclared hnone
          exact exists_of_isDeclared hdefault hread hresult hdeclared hnone

def plainRegistry : Registry :=
  ⟨[], some .plain⟩

/-- A file that depends on one below the search root and on one that is nowhere, and
the first of these, which depends on another that is nowhere. -/
def scatteredTree : FileTree :=
  .ofListing (.entry "A".toList
      (.file (.ofText "=head1 DEPENDENCIES\n=item B\n=item D\n".toList))
    (.entry "lib".toList
      (.directory .full (.entry "B".toList
        (.file (.ofText "=head1 DEPENDENCIES\n=item E\n".toList)) .empty)) .empty))

def scatteredDocument : Document :=
  new plainRegistry (some (Path.ofText "A".toList))

def scatteredFound : List Dependency :=
  [⟨"B".toList, some (Path.ofText "lib".toList)⟩, ⟨"E".toList, none⟩, ⟨"D".toList, none⟩]

theorem scattered_has_declared_names :
    Registry.ofNames (some []) = .ok plainRegistry ∧
    exists root?,
      Dependency.mk "D".toList root? ∈ scatteredFound ∧
      (root? = none <-> forall root, root ∈ [Path.ofText "lib".toList] ->
        scatteredTree.isFile (pathOf .plain root "D".toList) = .ok false) := by
  have hregistry : Registry.ofNames (some []) = .ok plainRegistry := rfl
  have hfound : (scatteredDocument.dependencies 0 scatteredTree
      [Path.ofText "lib".toList]).result = .ok scatteredFound :=
    eq_ok_of_toOption (by decide +kernel)
  rcases (reading_fails_iff_refused hregistry 0 scatteredTree).right scatteredDocument
    [Path.ofText "lib".toList] rfl rfl rfl with ⟨hfails, hanswers⟩
  have hquiet : ¬ IsRefused 0 scatteredTree scatteredDocument [Path.ofText "lib".toList] := by
    intro hrefused
    rcases hfails hrefused with ⟨path, fault, _, herror⟩
    rw [hfound] at herror
    cases herror
  rcases hanswers hquiet with ⟨instructions, dependencies, hread, hresult, hnames⟩
  rw [hfound] at hresult
  cases hresult
  have hinstructions : (scatteredDocument.instructions 0 scatteredTree).result =
      .ok [⟨"head1".toList, "DEPENDENCIES".toList, []⟩, ⟨"item".toList, "B".toList, []⟩,
        ⟨"item".toList, "D".toList, []⟩] :=
    eq_ok_of_toOption (by decide +kernel)
  rw [hinstructions] at hread
  cases hread
  rcases hnames "D".toList (Or.inl (by decide +kernel)) (by decide +kernel) with
    ⟨extension, dialect, root?, _, hdialect, hmem, hroot⟩
  cases hdialect
  exact ⟨hregistry, root?, hmem, hroot⟩

def vastName : Text :=
  List.replicate 256 'x'

def vastTree : FileTree :=
  .ofListing (.entry "A".toList
    (.file (.ofText ("=head1 DEPENDENCIES\n=item ".toList ++ vastName ++ "\n".toList)))
    .empty)

-- Neither the reading of a path of that name nor the search for the name gives a list.
theorem vastName_fails :
    Registry.ofNames (some []) = .ok plainRegistry ∧
    (forall instructions,
      (vastTree.extract 0 (Path.ofText vastName) .plain).result ≠ .ok instructions) ∧
    (forall dependencies,
      ((new plainRegistry (some (Path.ofText "A".toList))).dependencies 0 vastTree
        [Path.ofText ".".toList]).result ≠ .ok dependencies) :=
  ⟨rfl, ne_ok_of_toOption (by decide +kernel), ne_ok_of_toOption (by decide +kernel)⟩

end Document
end PodManual
