import Mathlib.Data.Finset.Card
import Mathlib.Data.Finset.Dedup
import PodManual.Proofs.Dependency.Lookup
import PodManual.Proofs.Dependency.Search

/-!
# Resolution ends

A search calls itself for every document that it finds.  This module lists the
calls that one search makes, and shows that fewer names are left unvisited at each
of them.  The names that can be left are declared by the document or by some file
of the tree, so there are finitely many, and the depth of a search is bounded.

Main statement: resolution never exceeds its depth, its answer obeys the recursion
in which no depth occurs, and every call leaves strictly fewer names unvisited.
-/

namespace PodManual

namespace Dependency

/-- A call of the search: a document, and the names visited before it. -/
abbrev Call := Declaring × List Text

/-!
## The calls of a search
-/

/-- The calls made while the roots are gone through for one name, when `descend`
answers them. -/
def rootCalls (openAt : Path -> Except Failure (Option Declaring))
    (descend : Declaring -> List Text -> Traced Found) :
    List Path -> List Text -> List Call
  | [], _ => []
  | root :: roots, visited =>
      match openAt root with
      | .error _ => []
      | .ok none => rootCalls openAt descend roots visited
      | .ok (some document) =>
          (document, visited) ::
            match (descend document visited).result with
            | .error _ => []
            | .ok below => rootCalls openAt descend roots below.2

def nameCalls (openAt : Path -> Text -> Except Failure (Option Declaring))
    (descend : Declaring -> List Text -> Traced Found) (roots : List Path) :
    List Text -> List Text -> List Call
  | [], _ => []
  | name :: names, visited =>
      if Settled visited name then
        nameCalls openAt descend roots names visited
      else
        rootCalls (fun root => openAt root name) descend roots (name :: visited) ++
          match (searchRoots (fun root => openAt root name) descend roots
            (name :: visited)).result with
          | .error _ => []
          | .ok own => nameCalls openAt descend roots names own.2.2

def calls (level : Nat) (tree : FileTree) (registry : Registry) (roots : List Path)
    (document : Declaring) (visited : List Text) : List Call :=
  nameCalls (openBelow tree registry document.extension) (resolve level tree registry roots)
    roots document.names visited

/-- A search of a document keeps the names visited before it. -/
def Extends (descend : Declaring -> List Text -> Traced Found) : Prop :=
  forall document visited found,
    (descend document visited).result = .ok found -> visited ⊆ found.2

section Roots

variable {openAt : Path -> Except Failure (Option Declaring)}
variable {descend other : Declaring -> List Text -> Traced Found}

theorem searchRoots_extends (hdescend : Extends descend) {roots : List Path}
    {visited : List Text} {own : Option Path × Found}
    (h : (searchRoots openAt descend roots visited).result = .ok own) :
    visited ⊆ own.2.2 := by
  induction roots generalizing visited own with
  | nil =>
      rw [searchRoots_nil_eq_ok.mp h]
      exact List.Subset.refl _
  | cons root roots ih =>
      rcases searchRoots_cons_eq_ok.mp h with
        ⟨_, hrest⟩ | ⟨document, below, later, _, hbelow, hlater, rfl⟩
      · exact ih hrest
      · have hbefore := hdescend _ _ _ hbelow
        have hafter := ih hlater
        exact List.Subset.trans hbefore hafter

theorem rootCalls_spec (hdescend : Extends descend) {roots : List Path}
    {visited : List Text} {call : Call}
    (h : call ∈ rootCalls openAt descend roots visited) :
    (exists root, root ∈ roots ∧ openAt root = .ok (some call.1)) ∧
      visited ⊆ call.2 := by
  induction roots generalizing visited with
  | nil => simp [rootCalls] at h
  | cons root roots ih =>
      rw [rootCalls] at h
      cases hopen : openAt root with
      | error failure => simp [hopen] at h
      | ok opened =>
          cases opened with
          | none =>
              simp only [hopen] at h
              rcases ih h with ⟨⟨later, hlater, hopened⟩, hvisited⟩
              exact ⟨⟨later, List.mem_cons_of_mem _ hlater, hopened⟩, hvisited⟩
          | some document =>
              simp only [hopen] at h
              rcases List.mem_cons.mp h with rfl | hlater
              · exact ⟨⟨root, List.mem_cons_self, hopen⟩, List.Subset.refl _⟩
              · cases hbelow : (descend document visited).result with
                | error failure => simp [hbelow] at hlater
                | ok below =>
                    simp only [hbelow] at hlater
                    rcases ih hlater with ⟨⟨later, hmem, hopened⟩, hvisited⟩
                    exact ⟨⟨later, List.mem_cons_of_mem _ hmem, hopened⟩,
                      List.Subset.trans (hdescend _ _ _ hbelow) hvisited⟩

-- Two answers to the calls that agree on the calls made cannot be told apart.
theorem searchRoots_congr {roots : List Path} {visited : List Text}
    (h : forall call, call ∈ rootCalls openAt descend roots visited ->
      descend call.1 call.2 = other call.1 call.2) :
    searchRoots openAt descend roots visited = searchRoots openAt other roots visited := by
  induction roots generalizing visited with
  | nil => rfl
  | cons root roots ih =>
      rw [searchRoots, searchRoots]
      apply Traced.andThen_congr
      intro opened hopened
      rw [Traced.result_ofExcept] at hopened
      rw [rootCalls, hopened] at h
      cases opened with
      | none => exact ih h
      | some document =>
          have hfirst : descend document visited = other document visited :=
            h (document, visited) List.mem_cons_self
          simp only [← hfirst]
          apply Traced.andThen_congr
          intro below hbelow
          rw [ih]
          intro call hcall
          apply h
          simp only [hbelow]
          exact List.mem_cons_of_mem _ hcall

theorem searchRoots_ne_tooDeep {roots : List Path} {visited : List Text}
    (hopen : forall root, openAt root ≠ .error .tooDeep)
    (h : forall call, call ∈ rootCalls openAt descend roots visited ->
      (descend call.1 call.2).result ≠ .error .tooDeep) :
    (searchRoots openAt descend roots visited).result ≠ .error .tooDeep := by
  induction roots generalizing visited with
  | nil => simp [searchRoots]
  | cons root roots ih =>
      intro hdeep
      rw [rootCalls] at h
      rcases searchRoots_cons_eq_error.mp hdeep with
        hfail | ⟨hnone, hrest⟩ | ⟨document, hdocument, hbelow⟩
      · exact hopen root hfail
      · simp only [hnone] at h
        exact ih h hrest
      · simp only [hdocument] at h
        rcases hbelow with hbelow | ⟨below, hbelow, hlater⟩
        · exact h (document, visited) List.mem_cons_self hbelow
        · simp only [hbelow] at h
          exact ih (fun call hcall => h call (List.mem_cons_of_mem _ hcall)) hlater

end Roots

section Names

variable {level : Nat} {openAt : Path -> Text -> Except Failure (Option Declaring)}
variable {descend other : Declaring -> List Text -> Traced Found}
variable {roots : List Path}

theorem searchNames_extends (hdescend : Extends descend) {names visited : List Text}
    {found : Found}
    (h : (searchNames level openAt descend roots names visited).result = .ok found) :
    visited ⊆ found.2 := by
  induction names generalizing visited found with
  | nil =>
      rw [searchNames_nil_eq_ok.mp h]
      exact List.Subset.refl _
  | cons name names ih =>
      by_cases hskip : Settled visited name
      · rw [searchNames_cons_of_settled names hskip] at h
        exact ih h
      · rcases (searchNames_cons_eq_ok hskip).mp h with
          ⟨own, later, hown, hlater, rfl⟩
        have hbefore := searchRoots_extends hdescend hown
        have hafter := ih hlater
        exact List.Subset.trans (List.subset_cons_self _ _)
          (List.Subset.trans hbefore hafter)

/-- Every call is for a document of a fresh name among the names gone through, and
that name has been visited by then. -/
theorem nameCalls_spec (hdescend : Extends descend) {names visited : List Text}
    {call : Call} (h : call ∈ nameCalls openAt descend roots names visited) :
    exists root name,
      root ∈ roots ∧ name ∈ names ∧ name ∉ visited ∧
      openAt root name = .ok (some call.1) ∧
      name ∈ call.2 ∧ visited ⊆ call.2 := by
  induction names generalizing visited with
  | nil => simp [nameCalls] at h
  | cons name names ih =>
      rw [nameCalls] at h
      by_cases hskip : Settled visited name
      · rw [if_pos hskip] at h
        rcases ih h with ⟨root, later, hroot, hlater, hrest⟩
        exact ⟨root, later, hroot, List.mem_cons_of_mem _ hlater, hrest⟩
      · rw [if_neg hskip] at h
        rcases List.mem_append.mp h with hroots | hnames
        · rcases rootCalls_spec hdescend hroots with ⟨⟨root, hroot, hopen⟩, hvisited⟩
          exact ⟨root, name, hroot, List.mem_cons_self, fun hmem => hskip (Or.inl hmem),
            hopen, hvisited List.mem_cons_self,
            fun x hx => hvisited (List.mem_cons_of_mem _ hx)⟩
        · cases hown : (searchRoots (fun root => openAt root name) descend roots
            (name :: visited)).result with
          | error failure => simp [hown] at hnames
          | ok own =>
              simp only [hown] at hnames
              rcases ih hnames with
                ⟨root, later, hroot, hlater, hfresh, hopen, hmem, hsub⟩
              have hkept : visited ⊆ own.2.2 :=
                List.Subset.trans (List.subset_cons_self _ _)
                  (searchRoots_extends hdescend hown)
              exact ⟨root, later, hroot, List.mem_cons_of_mem _ hlater,
                fun hvisited => hfresh (hkept hvisited), hopen, hmem,
                List.Subset.trans hkept hsub⟩

theorem searchNames_congr {names visited : List Text}
    (h : forall call, call ∈ nameCalls openAt descend roots names visited ->
      descend call.1 call.2 = other call.1 call.2) :
    searchNames level openAt descend roots names visited =
      searchNames level openAt other roots names visited := by
  induction names generalizing visited with
  | nil => rfl
  | cons name names ih =>
      rw [nameCalls] at h
      rw [searchNames, searchNames]
      by_cases hvisited : name ∈ visited
      · rw [if_pos (Or.inl hvisited)] at h
        rw [if_pos hvisited, if_pos hvisited, ih h]
      · rw [if_neg hvisited, if_neg hvisited]
        by_cases hnone : isNone name = true
        · rw [if_pos (Or.inr hnone)] at h
          rw [if_pos hnone, if_pos hnone, ih h]
        · rw [if_neg (not_or.mpr ⟨hvisited, hnone⟩)] at h
          have hroots : forall call,
              call ∈ rootCalls (fun root => openAt root name) descend roots
                (name :: visited) ->
              descend call.1 call.2 = other call.1 call.2 :=
            fun call hcall => h call (List.mem_append_left _ hcall)
          rw [if_neg hnone, if_neg hnone, ← searchRoots_congr hroots]
          apply Traced.andThen_congr
          intro own hown
          rw [ih]
          intro call hcall
          apply h
          simp only [hown]
          exact List.mem_append_right _ hcall

theorem searchNames_ne_tooDeep {names visited : List Text}
    (hopen : forall root name, openAt root name ≠ .error .tooDeep)
    (h : forall call, call ∈ nameCalls openAt descend roots names visited ->
      (descend call.1 call.2).result ≠ .error .tooDeep) :
    (searchNames level openAt descend roots names visited).result ≠ .error .tooDeep := by
  induction names generalizing visited with
  | nil => simp [searchNames]
  | cons name names ih =>
      rw [nameCalls] at h
      by_cases hskip : Settled visited name
      · rw [if_pos hskip] at h
        rw [searchNames_cons_of_settled names hskip]
        exact ih h
      · rw [if_neg hskip] at h
        intro hdeep
        rcases (searchNames_cons_eq_error hskip).mp hdeep with
          hroots | ⟨own, hown, hlater⟩
        · exact searchRoots_ne_tooDeep (fun root => hopen root name)
            (fun call hcall => h call (List.mem_append_left _ hcall)) hroots
        · simp only [hown] at h
          exact ih (fun call hcall => h call (List.mem_append_right _ hcall)) hlater

end Names

/-!
## The names left unvisited
-/

/-- The names that can still be met by the search of a document: those that it or
some file of the tree declares, without the visited ones. -/
def unvisited (tree : FileTree) (registry : Registry) (document : Declaring)
    (visited : List Text) : Finset Text :=
  (document.names ++ declarable tree registry).toFinset \ visited.toFinset

section Measure

variable {level : Nat} {tree : FileTree} {registry : Registry} {roots : List Path}

theorem mem_unvisited {document : Declaring} {visited : List Text} {name : Text} :
    name ∈ unvisited tree registry document visited <->
      (name ∈ document.names ∨ name ∈ declarable tree registry) ∧ name ∉ visited := by
  simp [unvisited]

theorem unvisited_ssubset {document next : Declaring} {visited later : List Text}
    {name : Text} (hname : name ∈ document.names) (hfresh : name ∉ visited)
    (hvisited : name ∈ later) (hlater : visited ⊆ later)
    (hnext : next.names ⊆ declarable tree registry) :
    unvisited tree registry next later ⊂ unvisited tree registry document visited := by
  rw [Finset.ssubset_iff_of_subset]
  · refine ⟨name, mem_unvisited.mpr ⟨Or.inl hname, hfresh⟩, ?_⟩
    intro hmem
    exact (mem_unvisited.mp hmem).right hvisited
  · intro x hx
    rcases mem_unvisited.mp hx with ⟨hdeclared, hunvisited⟩
    apply mem_unvisited.mpr
    constructor
    · rcases hdeclared with hown | htree
      · exact Or.inr (hnext hown)
      · exact Or.inr htree
    · intro hmem
      exact hunvisited (hlater hmem)

theorem card_unvisited_lt_depthBound (document : Declaring) (visited : List Text) :
    (unvisited tree registry document visited).card <
      depthBound tree registry document := by
  have hsdiff : (unvisited tree registry document visited).card ≤
      (document.names ++ declarable tree registry).toFinset.card :=
    Finset.card_le_card Finset.sdiff_subset
  have hlist := List.toFinset_card_le (document.names ++ declarable tree registry)
  rw [List.length_append] at hlist
  unfold depthBound
  omega

theorem unvisited_call_ssubset {descend : Declaring -> List Text -> Traced Found}
    (hdescend : Extends descend) {document : Declaring} {visited : List Text}
    {call : Call}
    (h : call ∈ nameCalls (openBelow tree registry document.extension) descend roots
      document.names visited) :
    unvisited tree registry call.1 call.2 ⊂
      unvisited tree registry document visited := by
  rcases nameCalls_spec hdescend h with
    ⟨root, name, _, hname, hfresh, hopen, hvisited, hlater⟩
  exact unvisited_ssubset hname hfresh hvisited hlater (names_subset_declarable hopen)

/-!
## Depth
-/

theorem search_extends (depth : Nat) : Extends (search level tree registry roots depth) := by
  induction depth with
  | zero =>
      intro document visited found h
      cases h
  | succ depth ih =>
      intro document visited found h
      exact searchNames_extends ih h

theorem resolve_extends : Extends (resolve level tree registry roots) := by
  intro document visited found h
  exact search_extends _ document visited found h

theorem search_ne_tooDeep {depth : Nat} {document : Declaring} {visited : List Text}
    (h : (unvisited tree registry document visited).card < depth) :
    (search level tree registry roots depth document visited).result ≠ .error .tooDeep := by
  induction depth generalizing document visited with
  | zero => omega
  | succ depth ih =>
      rw [search, Traced.result_note_andThen]
      apply searchNames_ne_tooDeep (openBelow_ne_tooDeep tree registry _)
      intro call hcall
      have hfewer := Finset.card_lt_card
        (unvisited_call_ssubset (search_extends depth) hcall)
      exact ih (by omega)

/-- Any depth beyond the number of unvisited names gives the same answer. -/
theorem search_eq_search {depth other : Nat} {document : Declaring}
    {visited : List Text}
    (hdepth : (unvisited tree registry document visited).card < depth)
    (hother : (unvisited tree registry document visited).card < other) :
    search level tree registry roots depth document visited =
      search level tree registry roots other document visited := by
  induction depth generalizing other document visited with
  | zero => omega
  | succ depth ih =>
      cases other with
      | zero => omega
      | succ other =>
          rw [search, search]
          apply Traced.andThen_congr
          intro _ _
          apply searchNames_congr
          intro call hcall
          have hfewer := Finset.card_lt_card
            (unvisited_call_ssubset (search_extends depth) hcall)
          exact ih (by omega) (by omega)

theorem resolve_ne_tooDeep (document : Declaring) (visited : List Text) :
    (resolve level tree registry roots document visited).result ≠ .error .tooDeep :=
  search_ne_tooDeep (card_unvisited_lt_depthBound document visited)

/-- The recursion that resolution follows, without a depth. -/
theorem resolve_eq_searchNames (document : Declaring) (visited : List Text) :
    resolve level tree registry roots document visited =
      (Traced.note level document.remarks).andThen fun _ =>
        searchNames level (openBelow tree registry document.extension)
          (resolve level tree registry roots) roots document.names visited := by
  have hbound : (unvisited tree registry document visited).card <
      depthBound tree registry document :=
    card_unvisited_lt_depthBound document visited
  rw [resolve, depthBound, search]
  apply Traced.andThen_congr
  intro _ _
  apply searchNames_congr
  intro call hcall
  have hfewer := Finset.card_lt_card
    (unvisited_call_ssubset (search_extends _) hcall)
  apply search_eq_search
  · unfold depthBound at hbound
    omega
  · exact card_unvisited_lt_depthBound call.1 call.2

theorem resolve_of_remarks {document : Declaring} {extension : Text} {names : List Text}
    (hextension : document.extension = extension) (hnames : document.names = names)
    (visited : List Text) :
    (resolve level tree registry roots document visited).result =
        (resolve level tree registry roots ⟨extension, names, []⟩ visited).result ∧
      (resolve level tree registry roots document visited).notes =
        (Traced.note level document.remarks).notes ++
          (resolve level tree registry roots ⟨extension, names, []⟩ visited).notes := by
  subst hextension hnames
  constructor
  · rw [resolve_eq_searchNames, resolve_eq_searchNames]
    rfl
  · rw [resolve_eq_searchNames, resolve_eq_searchNames, Traced.notes_note_andThen,
      Traced.notes_note_andThen]
    simp [Traced.note]

end Measure

end Dependency

/-!
## Documents
-/

namespace Document

open Dependency

variable {level : Nat}

theorem instructions_ne_tooDeep (level : Nat) (tree : FileTree) (document : Document) :
    (document.instructions level tree).result ≠ .error .tooDeep := by
  intro h
  rcases instructions_eq_error h with hdialect | ⟨path, hfile⟩
  · cases Registry.forExtension_eq_error hdialect
  · rcases FileTree.fileAt?_eq_error hfile with ⟨fault, hfault⟩
    cases hfault

theorem dependenciesFrom_ne_tooDeep (level : Nat) (tree : FileTree) (document : Document)
    (roots : List Path) (visited : List Text) :
    (document.dependenciesFrom level tree roots visited).result ≠ .error .tooDeep := by
  cases h : (document.instructions level tree).result with
  | error failure =>
      have hne := instructions_ne_tooDeep level tree document
      rw [h] at hne
      rw [dependenciesFrom_of_error h]
      simpa using hne
  | ok instructions =>
      rw [dependenciesFrom_of_ok h]
      exact resolve_ne_tooDeep _ visited

theorem dependencies_ne_tooDeep (level : Nat) (tree : FileTree) (document : Document)
    (roots : List Path) :
    (document.dependencies level tree roots).result ≠ .error .tooDeep := by
  cases hkept : document.resolved.lookup roots with
  | some kept => simp [dependencies_of_kept hkept]
  | none =>
      rw [dependencies_result_of_not_kept hkept]
      cases h : (document.dependenciesFrom level tree roots []).result with
      | ok found => simp [Except.map]
      | error failure =>
          have hne := dependenciesFrom_ne_tooDeep level tree document roots []
          rw [h] at hne
          simpa [Except.map] using hne

/-- A call that a search makes is the resolution of a document found below one of
the roots for a name that the caller declares. -/
theorem exists_below?_of_call {tree : FileTree} {registry : Registry}
    {roots : List Path} {declaring : Declaring} {seen : List Text} {call : Call}
    (h : call ∈ calls level tree registry roots declaring seen) :
    exists root name opened,
      root ∈ roots ∧ name ∈ declaring.names ∧
      below? tree registry declaring.extension root name = .ok (some opened) ∧
      (opened.dependenciesFrom level tree roots call.2).result =
        (resolve level tree registry roots call.1 call.2).result ∧
      (opened.dependenciesFrom level tree roots call.2).notes =
        (resolve level tree registry roots call.1 call.2).notes := by
  rcases nameCalls_spec resolve_extends h with
    ⟨root, name, hroot, hname, _, hopen, _, _⟩
  rcases below?_of_openBelow level hopen with
    ⟨opened, instructions, hopened, rfl, hread, hnotes, hextension, hnames⟩
  rcases resolve_of_remarks hextension hnames call.2 with ⟨hresult, hremarks⟩
  refine ⟨root, name, opened, hroot, hname, hopened, ?_, ?_⟩
  · rw [hresult]
    exact dependenciesFrom_of_ok hread roots call.2
  · rw [hremarks, ← hnotes]
    exact notes_dependenciesFrom_of_ok hread roots call.2

/-- Resolution ends on every input: it never exceeds its depth, it obeys the
recursion in which no depth occurs, and each call that it makes of itself is for a
document found below a root and leaves strictly fewer names unvisited. -/
theorem resolution_ends (level : Nat) (tree : FileTree) (document : Document)
    (roots : List Path) (visited : List Text) :
    (document.dependenciesFrom level tree roots visited).result ≠ .error .tooDeep ∧
    (document.dependencies level tree roots).result ≠ .error .tooDeep ∧
    forall (declaring : Declaring) (seen : List Text),
      resolve level tree document.registry roots declaring seen =
        ((Traced.note level declaring.remarks).andThen fun _ =>
          searchNames level (openBelow tree document.registry declaring.extension)
            (resolve level tree document.registry roots) roots declaring.names seen) ∧
      forall call, call ∈ calls level tree document.registry roots declaring seen ->
        (exists root name opened,
          root ∈ roots ∧ name ∈ declaring.names ∧
          below? tree document.registry declaring.extension root name =
            .ok (some opened) ∧
          (opened.dependenciesFrom level tree roots call.2).result =
            (resolve level tree document.registry roots call.1 call.2).result ∧
          (opened.dependenciesFrom level tree roots call.2).notes =
            (resolve level tree document.registry roots call.1 call.2).notes) ∧
        unvisited tree document.registry call.1 call.2 ⊂
          unvisited tree document.registry declaring seen := by
  refine ⟨dependenciesFrom_ne_tooDeep level tree document roots visited,
    dependencies_ne_tooDeep level tree document roots, ?_⟩
  intro declaring seen
  constructor
  · exact resolve_eq_searchNames declaring seen
  · intro call hcall
    constructor
    · exact exists_below?_of_call hcall
    · exact unvisited_call_ssubset resolve_extends hcall

end Document
end PodManual
