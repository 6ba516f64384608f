import Mathlib.Logic.Relation
import PodManual.Proofs.Dependency.Termination

/-!
# Resolution as a worklist

A second account of resolution, without recursion.  A worklist holds the names
that are still to be looked at, each with the extension of the document that
declares it.  One step takes the first of them; when the name is fresh, the step
emits a dependency and puts what the documents of the name declare in front of
the other names.

Main statement: resolution gives a result exactly when the worklist ends, and it
is the result of the worklist; it fails exactly when a look-up of the worklist
fails.  The two may fail with different failures, since a step of the worklist
looks below all roots at once and resolution goes on with a document before it
looks below the next root.
-/

namespace PodManual
namespace Dependency

/-- The names to be looked at, each after the extension of the document that
declares it, the names visited, latest first, and the dependencies emitted. -/
structure Worklist where
  pending : List (Text × Text)
  visited : List Text
  emitted : List Dependency

namespace Worklist

def start (document : Document) (instructions : List Instruction)
    (visited : List Text) : Worklist :=
  ⟨(declared instructions).map fun name => (document.extension, name), visited, []⟩

/-- The documents of a name that exist below the roots, in the order of the roots,
each with its root. -/
def existing (tree : FileTree) (registry : Registry) (extension name : Text) :
    List Path -> Except Failure (List (Path × Document))
  | [] => .ok []
  | root :: roots =>
      match Document.below? tree registry extension root name with
      | .error failure => .error failure
      | .ok none => existing tree registry extension name roots
      | .ok (some document) =>
          match existing tree registry extension name roots with
          | .error failure => .error failure
          | .ok later => .ok ((root, document) :: later)

/-- The names that documents declare, in order, each with the extension of its
document.  They are read at a level that lets no note through. -/
def tagged (tree : FileTree) : List Document -> Except Failure (List (Text × Text))
  | [] => .ok []
  | document :: documents =>
      match (document.instructions (Note.level + 1) tree).result with
      | .error failure => .error failure
      | .ok instructions =>
          match tagged tree documents with
          | .error failure => .error failure
          | .ok later =>
              .ok ((declared instructions).map (fun name => (document.extension, name)) ++
                later)

/-- The first root that has a document of a name, and what all its documents
declare. -/
def expand (tree : FileTree) (registry : Registry) (extension name : Text)
    (roots : List Path) : Except Failure (Option Path × List (Text × Text)) :=
  match existing tree registry extension name roots with
  | .error failure => .error failure
  | .ok documents =>
      match tagged tree (documents.map Prod.snd) with
      | .error failure => .error failure
      | .ok children => .ok (documents.head?.map Prod.fst, children)

/-- Take the first name; there is no step without one. -/
def step? (tree : FileTree) (registry : Registry) (roots : List Path)
    (list : Worklist) : Except Failure (Option Worklist) :=
  match list.pending with
  | [] => .ok none
  | (extension, name) :: pending =>
      if name ∈ list.visited ∨ Text.lower name = "none".toList then
        .ok (some { list with pending := pending })
      else
        match expand tree registry extension name roots with
        | .error failure => .error failure
        | .ok (root?, children) =>
            .ok (some ⟨children ++ pending, name :: list.visited,
              list.emitted ++ [⟨name, root?⟩]⟩)

section Runs

variable (tree : FileTree) (registry : Registry) (roots : List Path)

def Runs : Worklist -> Worklist -> Prop :=
  Relation.ReflTransGen fun list next => step? tree registry roots list = .ok (some next)

/-- The worklist comes to its end, with what has been found by then. -/
def Ends (list : Worklist) (found : Found) : Prop :=
  Runs tree registry roots list ⟨[], found.2, found.1⟩

/-- The worklist comes to a look-up that fails. -/
def Raises (list : Worklist) : Prop :=
  exists last failure, Runs tree registry roots list last ∧
    step? tree registry roots last = .error failure

end Runs

variable {level : Nat} {tree : FileTree} {registry : Registry} {roots : List Path}

/-!
## Steps
-/

theorem settled_iff {visited : List Text} {name : Text} :
    Settled visited name <-> name ∈ visited ∨ Text.lower name = "none".toList := by
  unfold Settled isNone
  rw [beq_iff_eq]

theorem not_settled_iff {visited : List Text} {name : Text} :
    ¬ Settled visited name <->
      name ∉ visited ∧ Text.lower name ≠ "none".toList := by
  rw [settled_iff, not_or]

theorem step?_skip {extension name : Text} {pending : List (Text × Text)}
    {visited : List Text} {emitted : List Dependency}
    (h : Settled visited name) :
    step? tree registry roots ⟨(extension, name) :: pending, visited, emitted⟩ =
      .ok (some ⟨pending, visited, emitted⟩) := by
  simp only [step?, if_pos (settled_iff.mp h)]

theorem step?_visit {extension name : Text} {pending : List (Text × Text)}
    {visited : List Text} {emitted : List Dependency}
    (h : ¬ Settled visited name) :
    step? tree registry roots ⟨(extension, name) :: pending, visited, emitted⟩ =
      match expand tree registry extension name roots with
      | .error failure => .error failure
      | .ok (root?, children) =>
          .ok (some ⟨children ++ pending, name :: visited,
            emitted ++ [⟨name, root?⟩]⟩) := by
  simp only [step?, if_neg (mt settled_iff.mpr h)]

/-- What a step does: it skips the first name, or it visits it. -/
theorem step?_cases {list next : Worklist}
    (h : step? tree registry roots list = .ok (some next)) :
    exists extension name pending, list.pending = (extension, name) :: pending ∧
      ((Settled list.visited name ∧
          next = ⟨pending, list.visited, list.emitted⟩) ∨
        (¬ Settled list.visited name ∧
          exists root? children,
            expand tree registry extension name roots = .ok (root?, children) ∧
            next = ⟨children ++ pending, name :: list.visited,
              list.emitted ++ [⟨name, root?⟩]⟩)) := by
  rcases list with ⟨pending, visited, emitted⟩
  cases pending with
  | nil => simp [step?] at h
  | cons first pending =>
      rcases first with ⟨extension, name⟩
      refine ⟨extension, name, pending, rfl, ?_⟩
      by_cases hskip : Settled visited name
      · rw [step?_skip hskip] at h
        cases h
        exact Or.inl ⟨hskip, rfl⟩
      · rw [step?_visit hskip] at h
        cases hexpand : expand tree registry extension name roots with
        | error failure => simp [hexpand] at h
        | ok expanded =>
            rw [hexpand] at h
            cases h
            exact Or.inr ⟨hskip, expanded.1, expanded.2, rfl, rfl⟩

theorem step?_eq_error {list : Worklist} {failure : Failure}
    (h : step? tree registry roots list = .error failure) :
    exists extension name pending, list.pending = (extension, name) :: pending ∧
      ¬ Settled list.visited name ∧
      expand tree registry extension name roots = .error failure := by
  rcases list with ⟨pending, visited, emitted⟩
  cases pending with
  | nil => simp [step?] at h
  | cons first pending =>
      rcases first with ⟨extension, name⟩
      refine ⟨extension, name, pending, rfl, ?_⟩
      by_cases hskip : Settled visited name
      · rw [step?_skip hskip] at h
        cases h
      · rw [step?_visit hskip] at h
        cases hexpand : expand tree registry extension name roots with
        | error other =>
            rw [hexpand] at h
            cases h
            exact ⟨hskip, rfl⟩
        | ok expanded => simp [hexpand] at h

theorem Runs.refl (list : Worklist) : Runs tree registry roots list list :=
  Relation.ReflTransGen.refl

theorem Runs.trans {first middle last : Worklist}
    (hfirst : Runs tree registry roots first middle)
    (hlast : Runs tree registry roots middle last) : Runs tree registry roots first last :=
  Relation.ReflTransGen.trans hfirst hlast

theorem Runs.skip {extension name : Text} {pending : List (Text × Text)}
    {visited : List Text} {emitted : List Dependency} {last : Worklist}
    (h : Settled visited name)
    (hrest : Runs tree registry roots ⟨pending, visited, emitted⟩ last) :
    Runs tree registry roots ⟨(extension, name) :: pending, visited, emitted⟩ last :=
  Relation.ReflTransGen.head (step?_skip h) hrest

theorem Runs.visit {extension name : Text} {pending children : List (Text × Text)}
    {visited : List Text} {emitted : List Dependency} {root? : Option Path}
    {last : Worklist} (h : ¬ Settled visited name)
    (hexpand : expand tree registry extension name roots = .ok (root?, children))
    (hrest : Runs tree registry roots
      ⟨children ++ pending, name :: visited, emitted ++ [⟨name, root?⟩]⟩ last) :
    Runs tree registry roots ⟨(extension, name) :: pending, visited, emitted⟩ last := by
  apply Relation.ReflTransGen.head _ hrest
  rw [step?_visit h, hexpand]

/-!
## Expansion of a name
-/

def entriesOf (document : Declaring) : List (Text × Text) :=
  document.names.map fun name => (document.extension, name)

@[simp] theorem expand_nil (extension name : Text) :
    expand tree registry extension name [] = .ok (none, []) := rfl

theorem expand_cons_of_error {extension name : Text} {root : Path} {rest : List Path}
    {failure : Failure}
    (h : openBelow tree registry extension root name = .error failure) :
    expand tree registry extension name (root :: rest) = .error failure := by
  simp only [expand, existing, Document.below?_eq_error.mpr h]

theorem expand_cons_of_none {extension name : Text} {root : Path} {rest : List Path}
    (h : openBelow tree registry extension root name = .ok none) :
    expand tree registry extension name (root :: rest) =
      expand tree registry extension name rest := by
  simp only [expand, existing, Document.below?_eq_none.mpr h]

theorem expand_cons_of_some {extension name : Text} {root : Path} {rest : List Path}
    {document : Declaring}
    (h : openBelow tree registry extension root name = .ok (some document)) :
    expand tree registry extension name (root :: rest) =
      match expand tree registry extension name rest with
      | .error failure => .error failure
      | .ok later => .ok (some root, entriesOf document ++ later.2) := by
  rcases Document.below?_of_openBelow (Note.level + 1) h with
    ⟨opened, instructions, hopened, _, hread, _, hextension, hnames⟩
  simp only [expand, existing, hopened, entriesOf, hextension, hnames]
  cases existing tree registry extension name rest with
  | error failure => rfl
  | ok later =>
      simp only [List.map_cons, tagged, hread]
      cases tagged tree (later.map Prod.snd) with
      | error failure => rfl
      | ok children => rfl

theorem expand_eq_ok_iff {extension name : Text} {below : List Path} :
    (exists expanded, expand tree registry extension name below = .ok expanded) <->
      forall root, root ∈ below ->
        exists opened, openBelow tree registry extension root name = .ok opened := by
  induction below with
  | nil => simp
  | cons root below ih =>
      rw [List.forall_mem_cons, ← ih]
      cases hopen : openBelow tree registry extension root name with
      | error failure => simp [expand_cons_of_error hopen]
      | ok opened =>
          cases opened with
          | none => simp [expand_cons_of_none hopen]
          | some document =>
              rw [expand_cons_of_some hopen]
              cases expand tree registry extension name below with
              | error failure => simp
              | ok later => simp

/-- What an expansion does with its first root. -/
theorem expand_cons_cases {extension name : Text} {root : Path} {below : List Path}
    {root? : Option Path} {children : List (Text × Text)}
    (h : expand tree registry extension name (root :: below) = .ok (root?, children)) :
    (openBelow tree registry extension root name = .ok none ∧
      expand tree registry extension name below = .ok (root?, children)) ∨
    exists document later? later,
      openBelow tree registry extension root name = .ok (some document) ∧
      expand tree registry extension name below = .ok (later?, later) ∧
      root? = some root ∧ children = entriesOf document ++ later := by
  cases hopen : openBelow tree registry extension root name with
  | error failure =>
      rw [expand_cons_of_error hopen] at h
      cases h
  | ok opened =>
      cases opened with
      | none =>
          rw [expand_cons_of_none hopen] at h
          exact Or.inl ⟨rfl, h⟩
      | some document =>
          rw [expand_cons_of_some hopen] at h
          cases hlater : expand tree registry extension name below with
          | error failure => simp [hlater] at h
          | ok later =>
              rw [hlater] at h
              cases h
              exact Or.inr ⟨document, later.1, later.2, rfl, rfl, rfl, rfl⟩

theorem mem_expand {extension name : Text} {below : List Path} {root? : Option Path}
    {children : List (Text × Text)} {entry : Text × Text}
    (h : expand tree registry extension name below = .ok (root?, children)) :
    entry ∈ children <->
      exists root document, root ∈ below ∧
        openBelow tree registry extension root name = .ok (some document) ∧
        entry ∈ entriesOf document := by
  induction below generalizing root? children with
  | nil =>
      cases h
      simp
  | cons root below ih =>
      rcases expand_cons_cases h with
        ⟨hopen, hbelow⟩ | ⟨document, later?, later, hopen, hbelow, _, rfl⟩
      · rw [ih hbelow]
        simp [hopen]
      · rw [List.mem_append, ih hbelow]
        simp [hopen]

/-!
## Resolution runs the worklist

A search that gives a result takes a worklist that begins with the names of its
document to where these names are done, whatever stands behind them and whatever
has been emitted before.  The statement about the loop over the roots is about
the documents that the step for the name has put in front.
-/

/-- The answers of `descend` are those of the worklist. -/
def Follows (tree : FileTree) (registry : Registry) (roots : List Path)
    (descend : Declaring -> List Text -> Traced Found) : Prop :=
  forall document visited found, (descend document visited).result = .ok found ->
    forall rest emitted,
      Runs tree registry roots ⟨entriesOf document ++ rest, visited, emitted⟩
        ⟨rest, found.2, emitted ++ found.1⟩

section Follows

variable {descend : Declaring -> List Text -> Traced Found}

theorem searchRoots_runs (hdescend : Follows tree registry roots descend)
    {extension name : Text} {below : List Path} {visited : List Text}
    {own : Option Path × Found}
    (h : (searchRoots (fun root => openBelow tree registry extension root name) descend
      below visited).result = .ok own) :
    exists children,
      expand tree registry extension name below = .ok (own.1, children) ∧
      forall rest emitted,
        Runs tree registry roots ⟨children ++ rest, visited, emitted⟩
          ⟨rest, own.2.2, emitted ++ own.2.1⟩ := by
  induction below generalizing visited own with
  | nil =>
      rw [searchRoots_nil_eq_ok.mp h]
      refine ⟨[], rfl, ?_⟩
      intro rest emitted
      rw [List.append_nil]
      exact Runs.refl _
  | cons root below ih =>
      rcases searchRoots_cons_eq_ok.mp h with
        ⟨hnone, hrest⟩ | ⟨document, first, later, hopen, hfirst, hlater, rfl⟩
      · rw [expand_cons_of_none hnone]
        exact ih hrest
      · rcases ih hlater with ⟨children, hexpand, hruns⟩
        refine ⟨entriesOf document ++ children, ?_, ?_⟩
        · simp only [expand_cons_of_some hopen, hexpand]
        · intro rest emitted
          have hhead := hdescend document visited first hfirst (children ++ rest) emitted
          have htail := hruns rest (emitted ++ first.1)
          rw [List.append_assoc] at htail
          rw [List.append_assoc]
          exact Runs.trans hhead htail

theorem searchNames_runs (hdescend : Follows tree registry roots descend)
    {extension : Text} {names visited : List Text} {found : Found}
    (h : (searchNames level (openBelow tree registry extension) descend roots names
      visited).result = .ok found) (rest : List (Text × Text))
    (emitted : List Dependency) :
    Runs tree registry roots
      ⟨names.map (fun name => (extension, name)) ++ rest, visited, emitted⟩
      ⟨rest, found.2, emitted ++ found.1⟩ := by
  induction names generalizing visited found emitted with
  | nil =>
      rw [searchNames_nil_eq_ok.mp h, List.append_nil]
      exact Runs.refl _
  | cons name names ih =>
      by_cases hskip : Settled visited name
      · rw [searchNames_cons_of_settled names hskip] at h
        exact Runs.skip hskip (ih h emitted)
      · rcases (searchNames_cons_eq_ok hskip).mp h with
          ⟨own, later, hown, hlater, rfl⟩
        rcases searchRoots_runs hdescend hown with ⟨children, hexpand, hruns⟩
        apply Runs.visit hskip hexpand
        have hroots := hruns (names.map (fun name => (extension, name)) ++ rest)
          (emitted ++ [⟨name, own.1⟩])
        have hnames := ih hlater (emitted ++ [⟨name, own.1⟩] ++ own.2.1)
        have hall := Runs.trans hroots hnames
        simpa [List.append_assoc] using hall

theorem search_runs (depth : Nat) :
    Follows tree registry roots (search level tree registry roots depth) := by
  induction depth with
  | zero =>
      intro document visited found h
      cases h
  | succ depth ih =>
      intro document visited found h rest emitted
      exact searchNames_runs ih h rest emitted

end Follows

/-!
## Resolution fails with the worklist

A search fails at the first look-up that fails.  The worklist has then failed
already, or will fail: a step looks below all roots before it goes on with the
first document.
-/

theorem Raises.of_runs {first middle : Worklist}
    (hfirst : Runs tree registry roots first middle)
    (h : Raises tree registry roots middle) : Raises tree registry roots first := by
  rcases h with ⟨last, failure, hlast, hstep⟩
  exact ⟨last, failure, Runs.trans hfirst hlast, hstep⟩

theorem Raises.of_expand {extension name : Text} {pending : List (Text × Text)}
    {visited : List Text} {emitted : List Dependency} {failure : Failure}
    (h : ¬ Settled visited name)
    (hexpand : expand tree registry extension name roots = .error failure) :
    Raises tree registry roots ⟨(extension, name) :: pending, visited, emitted⟩ := by
  refine ⟨_, failure, Runs.refl _, ?_⟩
  rw [step?_visit h, hexpand]

def FailsAlong (tree : FileTree) (registry : Registry) (roots : List Path)
    (descend : Declaring -> List Text -> Traced Found) : Prop :=
  forall document visited failure,
    (descend document visited).result = .error failure -> failure ≠ .tooDeep ->
    forall rest emitted,
      Raises tree registry roots ⟨entriesOf document ++ rest, visited, emitted⟩

section FailsAlong

variable {descend : Declaring -> List Text -> Traced Found}

theorem searchRoots_raises (hfollows : Follows tree registry roots descend)
    (hfails : FailsAlong tree registry roots descend)
    {extension name : Text} {below : List Path} {visited : List Text}
    {failure : Failure} (hdeep : failure ≠ .tooDeep)
    (h : (searchRoots (fun root => openBelow tree registry extension root name) descend
      below visited).result = .error failure) :
    (exists other, expand tree registry extension name below = .error other) ∨
      exists root? children,
        expand tree registry extension name below = .ok (root?, children) ∧
        forall rest emitted,
          Raises tree registry roots ⟨children ++ rest, visited, emitted⟩ := by
  induction below generalizing visited with
  | nil => simp [searchRoots] at h
  | cons root below ih =>
      rcases searchRoots_cons_eq_error.mp h with
        hfail | ⟨hnone, hrest⟩ | ⟨document, hopen, hbelow⟩
      · exact Or.inl ⟨failure, expand_cons_of_error hfail⟩
      · rw [expand_cons_of_none hnone]
        exact ih hrest
      · rw [expand_cons_of_some hopen]
        cases hexpand : expand tree registry extension name below with
        | error other => exact Or.inl ⟨other, rfl⟩
        | ok later =>
            refine Or.inr ⟨some root, entriesOf document ++ later.2, rfl, ?_⟩
            intro rest emitted
            rw [List.append_assoc]
            rcases hbelow with hfirst | ⟨first, hfirst, hlater⟩
            · exact hfails document visited failure hfirst hdeep _ emitted
            · apply Raises.of_runs (hfollows document visited first hfirst _ emitted)
              rcases ih hlater with ⟨other, hother⟩ | ⟨root?, children, hok, hraises⟩
              · rw [hexpand] at hother
                cases hother
              · rw [hexpand] at hok
                cases hok
                exact hraises rest _

theorem searchNames_raises (hfollows : Follows tree registry roots descend)
    (hfails : FailsAlong tree registry roots descend)
    {extension : Text} {names visited : List Text} {failure : Failure}
    (hdeep : failure ≠ .tooDeep)
    (h : (searchNames level (openBelow tree registry extension) descend roots names
      visited).result = .error failure) (rest : List (Text × Text))
    (emitted : List Dependency) :
    Raises tree registry roots
      ⟨names.map (fun name => (extension, name)) ++ rest, visited, emitted⟩ := by
  induction names generalizing visited emitted with
  | nil => simp [searchNames] at h
  | cons name names ih =>
      by_cases hskip : Settled visited name
      · rw [searchNames_cons_of_settled names hskip] at h
        exact Raises.of_runs (Runs.skip hskip (Runs.refl _)) (ih h emitted)
      · rcases (searchNames_cons_eq_error hskip).mp h with
          hroots | ⟨own, hown, hlater⟩
        · rcases searchRoots_raises hfollows hfails hdeep hroots with
            ⟨other, hexpand⟩ | ⟨root?, children, hexpand, hraises⟩
          · exact Raises.of_expand hskip hexpand
          · exact Raises.of_runs (Runs.visit hskip hexpand (Runs.refl _))
              (hraises _ _)
        · rcases searchRoots_runs hfollows hown with ⟨children, hexpand, hruns⟩
          have hvisit := Runs.visit hskip hexpand
            (hruns (names.map (fun name => (extension, name)) ++ rest)
              (emitted ++ [⟨name, own.1⟩]))
          exact Raises.of_runs hvisit (ih hlater _)

theorem search_raises (depth : Nat) :
    FailsAlong tree registry roots (search level tree registry roots depth) := by
  induction depth with
  | zero =>
      intro document visited failure h hdeep
      cases h
      exact absurd rfl hdeep
  | succ depth ih =>
      intro document visited failure h hdeep rest emitted
      exact searchNames_raises (search_runs depth) ih hdeep h rest emitted

end FailsAlong

/-!
## The two accounts agree

A worklist has one run, so it cannot come both to its end and to a failure, nor to
two different ends.
-/

theorem runs_or_runs {first left right : Worklist}
    (hleft : Runs tree registry roots first left)
    (hright : Runs tree registry roots first right) :
    Runs tree registry roots left right ∨ Runs tree registry roots right left := by
  apply Relation.ReflTransGen.total_of_right_unique _ hleft hright
  intro list next other hnext hother
  rw [hnext] at hother
  cases hother
  rfl

theorem Runs.eq_of_stuck {list last : Worklist} (h : Runs tree registry roots list last)
    (hstuck : forall next, step? tree registry roots list ≠ .ok (some next)) :
    list = last := by
  rcases Relation.ReflTransGen.cases_head h with heq | ⟨next, hstep, _⟩
  · exact heq
  · exact absurd hstep (hstuck next)

theorem step?_done (visited : List Text) (emitted : List Dependency) :
    step? tree registry roots ⟨[], visited, emitted⟩ = .ok none := rfl

theorem eq_of_runs_done {found other : Found}
    (h : Runs tree registry roots ⟨[], found.2, found.1⟩ ⟨[], other.2, other.1⟩) :
    found = other := by
  have heq := h.eq_of_stuck (by simp [step?_done])
  rw [Worklist.mk.injEq] at heq
  exact Prod.ext heq.right.right heq.right.left

theorem Ends.unique {list : Worklist} {found other : Found}
    (hfound : Ends tree registry roots list found)
    (hother : Ends tree registry roots list other) : found = other := by
  rcases runs_or_runs hfound hother with hruns | hruns
  · exact eq_of_runs_done hruns
  · exact (eq_of_runs_done hruns).symm

theorem Ends.not_raises {list : Worklist} {found : Found}
    (hends : Ends tree registry roots list found) :
    ¬ Raises tree registry roots list := by
  rintro ⟨last, failure, hlast, hstep⟩
  rcases runs_or_runs hends hlast with hruns | hruns
  · have heq := hruns.eq_of_stuck (by simp [step?_done])
    rw [← heq, step?_done] at hstep
    cases hstep
  · have heq := hruns.eq_of_stuck (by simp [hstep])
    rw [heq, step?_done] at hstep
    cases hstep

theorem ends_of_resolve {document : Declaring} {visited : List Text} {found : Found}
    (h : (resolve level tree registry roots document visited).result = .ok found) :
    Ends tree registry roots ⟨entriesOf document, visited, []⟩ found := by
  have hruns := search_runs _ document visited found h [] []
  rw [List.append_nil, List.nil_append] at hruns
  exact hruns

theorem raises_of_resolve {document : Declaring} {visited : List Text}
    {failure : Failure}
    (h : (resolve level tree registry roots document visited).result = .error failure) :
    Raises tree registry roots ⟨entriesOf document, visited, []⟩ := by
  have hdeep : failure ≠ .tooDeep := by
    rintro rfl
    exact resolve_ne_tooDeep document visited h
  have hraises := search_raises _ document visited failure h hdeep [] []
  rw [List.append_nil] at hraises
  exact hraises

theorem resolve_eq_ok_iff {document : Declaring} {visited : List Text} {found : Found} :
    (resolve level tree registry roots document visited).result = .ok found <->
      Ends tree registry roots ⟨entriesOf document, visited, []⟩ found := by
  constructor
  · exact ends_of_resolve
  · intro hends
    cases h : (resolve level tree registry roots document visited).result with
    | ok other => rw [Ends.unique (ends_of_resolve h) hends]
    | error failure => exact absurd (raises_of_resolve h) hends.not_raises

theorem resolve_eq_error_iff {document : Declaring} {visited : List Text} :
    (exists failure,
      (resolve level tree registry roots document visited).result = .error failure) <->
      Raises tree registry roots ⟨entriesOf document, visited, []⟩ := by
  constructor
  · rintro ⟨failure, h⟩
    exact raises_of_resolve h
  · intro hraises
    cases h : (resolve level tree registry roots document visited).result with
    | ok found => exact absurd hraises (ends_of_resolve h).not_raises
    | error failure => exact ⟨failure, rfl⟩

end Worklist
end Dependency

namespace Document

open Dependency Worklist

/-- The dependencies of a document are what its worklist emits, with the names
that the worklist has visited; they are refused exactly when the document cannot be
read or its worklist comes to a look-up that fails. -/
theorem dependenciesFrom_eq_worklist (level : Nat) (tree : FileTree) (document : Document)
    (roots : List Path) (visited : List Text) :
    (forall found,
      (document.dependenciesFrom level tree roots visited).result = .ok found <->
        exists instructions,
          (document.instructions level tree).result = .ok instructions ∧
          Ends tree document.registry roots (start document instructions visited)
            found) ∧
    ((exists failure,
      (document.dependenciesFrom level tree roots visited).result = .error failure) <->
        (exists failure, (document.instructions level tree).result = .error failure) ∨
        exists instructions,
          (document.instructions level tree).result = .ok instructions ∧
          Raises tree document.registry roots (start document instructions visited)) := by
  cases hread : (document.instructions level tree).result with
  | error failure => simp [dependenciesFrom_of_error hread]
  | ok instructions =>
      rw [dependenciesFrom_of_ok hread]
      simp only [Except.ok.injEq, exists_eq_left', reduceCtorEq, exists_false, false_or]
      exact ⟨fun found => resolve_eq_ok_iff, resolve_eq_error_iff⟩

-- The names of a document come before those that were declared beside it.
example :
    ((new ⟨[], some .perl⟩ (some (Path.ofText "A.pm".toList))).dependenciesFrom 0
      (.ofListing (.entry "A.pm".toList (.file (.ofText
          "=head1 DEPENDENCIES\n=item Cat::B\n=item None\n=item C\n".toList))
        (.entry "lib".toList (.directory .full (.entry "Cat".toList
          (.directory .full (.entry "B.pm".toList (.file (.ofText
            "=head1 DEPENDENCIES\n=item D\n=item A\n".toList)) .empty)) .empty)) .empty)))
      [Path.ofText "lib".toList, Path.ofText ".".toList] []).result.toOption =
    some ([⟨"Cat::B".toList, some (Path.ofText "lib".toList)⟩, ⟨"D".toList, none⟩,
        ⟨"A".toList, some (Path.ofText ".".toList)⟩, ⟨"C".toList, none⟩],
      ["C".toList, "A".toList, "D".toList, "Cat::B".toList]) := by
  decide +kernel

end Document
end PodManual
