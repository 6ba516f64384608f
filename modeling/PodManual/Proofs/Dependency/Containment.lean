import PodManual.Proofs.Dependency.Origin
import PodManual.Proofs.FileTree.Below

/-!
# Where the file of a dependency lies

The path of a name below a search root begins with the components of the root, unless
the name begins with a mark that becomes a slash: such a path starts from the root
directory and leaves the search root out.  A path that begins with the search root may
still lead out of it by `..`, since names are taken from the text of the documents as
they are.

Main statement: a dependency that is found below a root has a file there, and where the
file lies is decided by the components of the name's path alone, followed from the
search root or from the root directory.  It lies in the directory of the search root
when the name has no such mark and no `..` takes its components above where they
started.
-/

namespace PodManual

/-!
## Paths that begin with a directory
-/

namespace Path

def LiesUnder (path directory : Path) : Prop :=
  path.root = directory.root ∧ directory.parts <+: path.parts

instance (path directory : Path) : Decidable (path.LiesUnder directory) :=
  inferInstanceAs (Decidable (_ ∧ _))

theorem join_of_relative (directory : Path) {path : Path} (h : path.root = .relative) :
    directory.join path = directory.below path.parts := by
  unfold join
  rw [h]
  rfl

theorem join_of_rooted (directory : Path) {path : Path} (h : path.root ≠ .relative) :
    directory.join path = path := by
  unfold join
  split
  · rename_i hrelative
    exact absurd hrelative h
  · rfl

theorem liesUnder_join {directory path : Path} :
    (directory.join path).LiesUnder directory <->
      path.root = .relative ∨ path.LiesUnder directory := by
  by_cases hroot : path.root = .relative
  · rw [join_of_relative directory hroot]
    simp only [hroot, true_or, iff_true]
    exact ⟨rfl, List.prefix_append _ _⟩
  · rw [join_of_rooted directory hroot]
    simp only [hroot, false_or]

end Path

theorem PathRoot.ofText_eq_relative {t : Text} :
    ofText t = .relative <-> t.head? ≠ some '/' := by
  unfold ofText
  split
  · simp
  · simp
  · simp
  · rename_i hother
    simp only [true_iff]
    intro hhead
    cases t with
    | nil => cases hhead
    | cons c rest =>
        cases hhead
        exact hother rest rfl

namespace Language

def rootMarks : Language -> List Text
  | .plain => ["/".toList]
  | .php => ["/".toList, "\\".toList]
  | .js => ["/".toList, ".".toList]
  | .perl => ["/".toList, "::".toList]

/-- The name begins with a mark that becomes a slash. -/
def isRooted (language : Language) (name : Text) : Bool :=
  language.rootMarks.any fun mark => mark.isPrefixOf name

theorem head?_charToSlash (sep c : Char) (rest : Text) :
    (charToSlash sep (c :: rest)).head? = some '/' <-> '/' = c ∨ sep = c := by
  by_cases hsep : c = sep
  · simp [charToSlash, hsep]
  · simp [charToSlash, Ne.symm hsep, eq_comm]

theorem head?_colonsToSlash (name : Text) :
    (colonsToSlash name).head? =
      if "::".toList.isPrefixOf name then some '/' else name.head? := by
  unfold colonsToSlash
  split
  · rfl
  · rfl
  · rename_i c rest hother
    rw [if_neg]
    · rfl
    · intro hmark
      rcases List.isPrefixOf_iff_prefix.mp hmark with ⟨later, hlater⟩
      cases hlater
      exact hother later rfl rfl

theorem head?_relativePath {language : Language} {name : Text} :
    (language.relativePath name).head? = some '/' <-> language.isRooted name = true := by
  cases name with
  | nil => cases language <;> decide
  | cons c rest =>
      unfold isRooted
      rw [List.any_eq_true]
      cases language with
      | plain =>
          change some c = some '/' <-> exists mark, mark ∈ [['/']] ∧ _
          rw [Option.some_inj, eq_comm]
          simp
      | php =>
          change (charToSlash '\\' (c :: rest)).head? = some '/' <->
            exists mark, mark ∈ [['/'], ['\\']] ∧ _
          rw [head?_charToSlash]
          simp
      | js =>
          change (charToSlash '.' (c :: rest)).head? = some '/' <->
            exists mark, mark ∈ [['/'], ['.']] ∧ _
          rw [head?_charToSlash]
          simp
      | perl =>
          change (colonsToSlash (c :: rest) ++ ".pm".toList).head? = some '/' <->
            exists mark, mark ∈ [['/'], "::".toList] ∧ _
          rw [List.head?_append, head?_colonsToSlash]
          by_cases hmark : "::".toList.isPrefixOf (c :: rest) = true
          · rw [if_pos hmark]
            exact iff_of_true rfl ⟨_, by simp, hmark⟩
          · rw [if_neg hmark]
            change some c = some '/' <-> _
            simp only [List.mem_cons, List.not_mem_nil, or_false, exists_eq_or_imp,
              exists_eq_left, hmark, Bool.false_eq_true, Option.some.injEq]
            rw [eq_comm]
            simp

theorem root_relativePath {language : Language} {name : Text} :
    (Path.ofText (language.relativePath name)).root = .relative <->
      language.isRooted name = false := by
  change PathRoot.ofText (language.relativePath name) = .relative <-> _
  rw [PathRoot.ofText_eq_relative, ne_eq, head?_relativePath, Bool.not_eq_true]

end Language

/-!
## Where components lead
-/

/-- The names of a directory, nearest first, after one more component: `..` takes a
name away, and the root directory holds itself. -/
def landingStep (names : List Text) (part : Text) : List Text :=
  if part = "..".toList then names.tail else part :: names

/-- The names that components lead to from a directory. -/
def landing (above parts : List Text) : List Text :=
  parts.foldl landingStep above

/-- The components never lead above where they started, from so many names below it. -/
def staysBelow : Nat -> List Text -> Bool
  | _, [] => true
  | depth, part :: parts =>
      if part = "..".toList then decide (0 < depth) && staysBelow (depth - 1) parts
      else staysBelow (depth + 1) parts

/-- Components that never lead above where they started leave what is above alone. -/
theorem landing_append {parts inner : List Text}
    (h : staysBelow inner.length parts = true) (above : List Text) :
    landing (inner ++ above) parts = landing inner parts ++ above := by
  induction parts generalizing inner with
  | nil => rfl
  | cons part parts ih =>
      rw [landing, landing, List.foldl_cons, List.foldl_cons]
      rw [staysBelow] at h
      by_cases hparent : part = "..".toList
      · rw [if_pos hparent] at h
        cases inner with
        | nil => cases h
        | cons name outer =>
            rw [landingStep, landingStep, if_pos hparent, if_pos hparent]
            exact ih (Bool.and_eq_true_iff.mp h).right
      · rw [if_neg hparent] at h
        rw [landingStep, landingStep, if_neg hparent, if_neg hparent]
        have hdeeper : staysBelow (part :: inner).length parts = true := h
        exact ih hdeeper

theorem landingStep_of_enter {tree : FileTree} {above names : List Text} {part : Text}
    (h : tree.enter (.within above) part = .ok (.within names)) :
    names = landingStep above part := by
  unfold landingStep
  rcases FileTree.enter_eq_ok.mp h with
    ⟨_, ⟨hparent, hnext⟩ | ⟨hname, _, hnext, _⟩⟩
  · rw [if_pos hparent]
    cases hnext
    rfl
  · rw [if_neg hname]
    cases hnext
    rfl

/-- Where a path leads is decided by its components; the tree decides only whether it
leads anywhere. -/
theorem landing_of_follow {tree : FileTree} {above parts names : List Text}
    (h : tree.follow (.within above) parts = .ok (.within names)) :
    names = landing above parts := by
  induction parts generalizing above with
  | nil =>
      cases h
      rfl
  | cons part parts ih =>
      rcases FileTree.follow_cons_eq_ok.mp h with ⟨⟨inner⟩, henter, hrest⟩
      rw [landing, List.foldl_cons, ← landingStep_of_enter henter]
      exact ih hrest

/-- The name's path stays in the directory that it is seen from. -/
def Language.confines (language : Language) (name : Text) : Bool :=
  !language.isRooted name &&
    staysBelow 0 (Path.ofText (language.relativePath name)).parts

namespace Dependency

/-- A directory from which the components of a name's path are followed: that of the
search root, and the root directory for a name with a mark that becomes a slash. -/
def StartsIn (tree : FileTree) (dialect : Dialect) (root : Path) (name : Text)
    (above : List Text) : Prop :=
  if dialect.language.isRooted name then above = []
  else tree.locate root = .ok (.within above)

theorem location_of_fileAt? {tree : FileTree} {dialect : Dialect} {root : Path} {name : Text}
    {file : File} (h : tree.fileAt? (pathOf dialect root name) = .ok (some file)) :
    exists above names,
      StartsIn tree dialect root name above ∧
      tree.locate (pathOf dialect root name) = .ok (.within names) ∧
      tree.entryAt? (.within names) = some (.file file) ∧
      names = landing above (Path.ofText (dialect.language.relativePath name)).parts := by
  rcases FileTree.fileAt?_eq_some.mp h with ⟨_, ⟨names⟩, hlocate, hentry⟩
  unfold StartsIn
  by_cases hrooted : dialect.language.isRooted name = true
  · have hroot : (Path.ofText (dialect.language.relativePath name)).root ≠ .relative := by
      rw [ne_eq, Language.root_relativePath, hrooted]
      exact Bool.noConfusion
    have hpath : pathOf dialect root name =
        Path.ofText (dialect.language.relativePath name) :=
      Path.join_of_rooted root hroot
    have hfollow := hlocate
    rw [hpath] at hfollow
    rcases FileTree.locate_eq_ok.mp hfollow with ⟨_, first, hstart, hrest⟩
    rw [FileTree.start_of_rooted hroot] at hstart
    cases hstart
    exact ⟨[], names, if_pos hrooted ▸ rfl, hlocate, hentry, landing_of_follow hrest⟩
  · have hrelative := Language.root_relativePath.mpr (Bool.eq_false_iff.mpr hrooted)
    have hbelow : pathOf dialect root name =
        root.below (Path.ofText (dialect.language.relativePath name)).parts :=
      Path.join_of_relative root hrelative
    have hfollow := hlocate
    rw [hbelow] at hfollow
    rcases FileTree.exists_locate_of_below hfollow with ⟨⟨above⟩, hroot, hrest⟩
    refine ⟨above, names, ?_, hlocate, hentry, landing_of_follow hrest⟩
    rw [if_neg hrooted]
    exact hroot

theorem suffix_of_confines {tree : FileTree} {dialect : Dialect} {root : Path} {name : Text}
    {above : List Text} (h : dialect.language.confines name = true)
    (hstart : StartsIn tree dialect root name above) :
    tree.locate root = .ok (.within above) ∧
      above <:+ landing above (Path.ofText (dialect.language.relativePath name)).parts := by
  rw [Language.confines, Bool.and_eq_true, Bool.not_eq_true'] at h
  rcases h with ⟨hrooted, hstays⟩
  rw [StartsIn, hrooted, if_neg Bool.false_ne_true] at hstart
  refine ⟨hstart, ?_⟩
  have hinner : staysBelow ([] : List Text).length
      (Path.ofText (dialect.language.relativePath name)).parts = true := hstays
  have happend := landing_append hinner above
  rw [List.nil_append] at happend
  rw [happend]
  exact List.suffix_append _ above

end Dependency

namespace Document

open Dependency Worklist

theorem path_of_forClass {registry : Registry} {root : Path} {name extension : Text}
    {opened : Document} (h : forClass registry root name extension = .ok opened) :
    exists dialect, registry.forExtension extension = .ok dialect ∧
      opened.path? = some (pathOf dialect root name) := by
  unfold forClass at h
  cases hdialect : registry.forExtension extension with
  | error failure => simp [hdialect] at h
  | ok dialect =>
      simp only [hdialect, Except.ok.injEq] at h
      subst h
      exact ⟨dialect, rfl, rfl⟩

/-- The documents that resolution opens for a root begin with the root, but for names
with a mark that becomes a slash; and the file of a dependency lies where the components
of its name lead, which is in the directory of the root for every name that stays
there. -/
theorem dependency_location {level : Nat} {tree : FileTree} {document : Document}
    {roots : List Path} {visited : List Text} {instructions : List Instruction}
    (hread : (document.instructions level tree).result = .ok instructions) :
    (forall extension name root opened,
      Visits tree document.registry roots (start document instructions visited) extension
        name ->
      root ∈ roots -> forClass document.registry root name extension = .ok opened ->
      exists dialect path,
        document.registry.forExtension extension = .ok dialect ∧
        opened.path? = some path ∧
        (path.LiesUnder root <->
          dialect.language.isRooted name = false ∨
            (Path.ofText (dialect.language.relativePath name)).LiesUnder root)) ∧
    (forall found name root,
      (document.dependenciesFrom level tree roots visited).result = .ok found ->
      Dependency.mk name (some root) ∈ found.1 ->
      root ∈ roots ∧
      exists extension dialect above names file,
        Visits tree document.registry roots (start document instructions visited) extension
          name ∧
        document.registry.forExtension extension = .ok dialect ∧
        StartsIn tree dialect root name above ∧
        tree.locate (pathOf dialect root name) = .ok (.within names) ∧
        tree.entryAt? (.within names) = some (.file file) ∧
        names = landing above (Path.ofText (dialect.language.relativePath name)).parts ∧
        (dialect.language.confines name = true ->
          tree.locate root = .ok (.within above) ∧ above <:+ names)) := by
  constructor
  · intro extension name root opened _ _ hopened
    rcases path_of_forClass hopened with ⟨dialect, hdialect, hpath⟩
    refine ⟨dialect, pathOf dialect root name, hdialect, hpath, ?_⟩
    rw [pathOf, Path.liesUnder_join, Language.root_relativePath]
  · intro found name root hfound hmem
    rcases expand_of_mem_dependenciesFrom hread hfound hmem with
      ⟨extension, children, hvisits, hexpand⟩
    rcases (expand_root hexpand).right root rfl with ⟨hroot, opened, hopened⟩
    rcases openBelow_eq_some.mp hopened with ⟨dialect, file, hdialect, hfile, _⟩
    rcases location_of_fileAt? hfile with ⟨above, names, hstart, hnames, hentry, rfl⟩
    exact ⟨hroot, extension, dialect, above, _, file, hvisits, hdialect, hstart, hnames,
      hentry, rfl, fun hconfines => suffix_of_confines hconfines hstart⟩

theorem pair_location :
    (pairDocument.instructions 0 pairTree).result = .ok pairInstructions ∧
    Path.ofText "lib".toList ∈ pairRoots ∧
    exists above names,
      pairTree.locate (Path.ofText "lib".toList) = .ok (.within above) ∧
      pairTree.locate (pathOf .perl (Path.ofText "lib".toList) "B".toList) =
        .ok (.within names) ∧
      above <:+ names := by
  have hread : (pairDocument.instructions 0 pairTree).result = .ok pairInstructions :=
    eq_ok_of_toOption (by decide +kernel)
  rcases (dependency_location hread).right pairFound "B".toList (Path.ofText "lib".toList)
    pair_result List.mem_cons_self with
    ⟨hroot, extension, dialect, above, names, _, _, hdialect, _, hnames, _, _, hunder⟩
  cases hdialect
  rcases hunder (by decide +kernel) with ⟨habove, hsuffix⟩
  exact ⟨hread, hroot, above, names, habove, hnames, hsuffix⟩

/-- A module that declares what lies beside its search root and what lies in the root
directory, both of these modules, and a search root with another one. -/
def strayTree : FileTree where
  access := .full
  top :=
    .entry "B.pm".toList (.file (.ofText [])) (.entry "work".toList (.directory .full
      (.entry "A.pm".toList
        (.file (.ofText "=head1 DEPENDENCIES\n=item ../B\n=item ::B\n".toList))
      (.entry "B.pm".toList (.file (.ofText "=head1 NAME\nB\n".toList))
      (.entry "lib".toList (.directory .full
        (.entry "C.pm".toList (.file (.ofText [])) .empty)) .empty)))) .empty)
  workingDirectory := .within ["work".toList]

def strayRoot : Path :=
  Path.ofText "lib".toList

-- The first name leads out of the root, the second leaves the root out.
theorem stray_leaves_root :
    ((new ⟨[], some .perl⟩ (some (Path.ofText "A.pm".toList))).dependencies 0 strayTree
      [strayRoot]).result =
      .ok [⟨"../B".toList, some strayRoot⟩, ⟨"::B".toList, some strayRoot⟩] ∧
    strayTree.locate strayRoot = .ok (.within ["lib".toList, "work".toList]) ∧
    strayTree.locate (pathOf .perl strayRoot "../B".toList) =
      .ok (.within ["B.pm".toList, "work".toList]) ∧
    ¬ ["lib".toList, "work".toList] <:+ ["B.pm".toList, "work".toList] ∧
    strayTree.locate (pathOf .perl strayRoot "::B".toList) = .ok (.within ["B.pm".toList]) ∧
    ¬ ["lib".toList, "work".toList] <:+ ["B.pm".toList] ∧
    ¬ (pathOf .perl strayRoot "::B".toList).LiesUnder strayRoot := by
  refine ⟨eq_ok_of_toOption (by decide +kernel), rfl, rfl, by decide, rfl, by decide,
    by decide +kernel⟩

end Document
end PodManual
