import PodManual.Proofs.Page.Printed

/-!
# Nesting of lists

The list tags of a printed body are read from left to right, with the scopes that are
open, innermost first.  A word of list tags is balanced if it is made of pairs of tags
with balanced words inside them, where an entry stands directly inside a list of its
kind.

Main statement: every closing tag of a body closes the innermost open scope, and the
lists that are left open are those that instructions began and did not end.
-/

namespace PodManual
namespace Page

/-!
## List tags
-/

namespace Scope

def tag : Scope -> Text
  | .list kind => kind.listTag
  | .entry kind => kind.entryTag

def isList : Scope -> Bool
  | .list _ => true
  | .entry _ => false

/-- A list may stand anywhere, an entry only directly inside a list of its kind. -/
def FitsIn (outer? : Option Scope) : Scope -> Prop
  | .list _ => True
  | .entry kind => outer? = some (.list kind)

instance (outer? : Option Scope) (scope : Scope) : Decidable (scope.FitsIn outer?) :=
  match scope with
  | .list _ => isTrue trivial
  | .entry kind => inferInstanceAs (Decidable (outer? = some (.list kind)))

end Scope

inductive ListTag where
  | opening (scope : Scope)
  | closing (scope : Scope)
  deriving DecidableEq, Repr

namespace ListTag

def print : ListTag -> Text
  | .opening scope => Fragment.opening scope.tag
  | .closing scope => Fragment.closing scope.tag

def all : List ListTag :=
  [.list .bulleted, .list .definition, .entry .bulleted, .entry .definition].flatMap
    fun scope => [.opening scope, .closing scope]

def at? (t : Text) : Option ListTag :=
  all.find? fun listTag => Text.startsWith t listTag.print

/-- The scopes after a tag.  What is opened has to fit into the innermost scope, and
what is closed has to be the innermost scope. -/
def change? (scopes : List Scope) : ListTag -> Option (List Scope)
  | .opening scope => if scope.FitsIn scopes.head? then some (scope :: scopes) else none
  | .closing scope => if scopes.head? = some scope then some scopes.tail else none

end ListTag

def listTags (t : Text) : List ListTag :=
  occurrences ListTag.at? t

def nest? (scopes : List Scope) (tags : List ListTag) : Option (List Scope) :=
  tags.foldlM ListTag.change? scopes

/-- Pairs of tags around balanced words, inside a scope or outside all of them. -/
inductive Balanced : Option Scope -> List ListTag -> Prop
  | nil {outer? : Option Scope} : Balanced outer? []
  | pair {outer? : Option Scope} {scope : Scope} {inner rest : List ListTag} :
      scope.FitsIn outer? -> Balanced (some scope) inner -> Balanced outer? rest ->
      Balanced outer? (.opening scope :: inner ++ .closing scope :: rest)

/-!
## Balanced words
-/

theorem nest?_cons (scopes : List Scope) (listTag : ListTag) (tags : List ListTag) :
    nest? scopes (listTag :: tags) =
      (listTag.change? scopes).bind fun changed => nest? changed tags := by
  rw [nest?, List.foldlM_cons]
  rfl

theorem nest?_append (scopes : List Scope) (first second : List ListTag) :
    nest? scopes (first ++ second) =
      (nest? scopes first).bind fun changed => nest? changed second := by
  rw [nest?, List.foldlM_append]
  rfl

theorem change?_opening {scope : Scope} {scopes changed : List Scope} :
    (ListTag.opening scope).change? scopes = some changed <->
      scope.FitsIn scopes.head? ∧ scope :: scopes = changed := by
  simp only [ListTag.change?, Option.ite_none_right_eq_some, Option.some.injEq]

theorem change?_closing {scope : Scope} {scopes changed : List Scope} :
    (ListTag.closing scope).change? scopes = some changed <->
      scopes = scope :: changed := by
  simp only [ListTag.change?, Option.ite_none_right_eq_some, Option.some.injEq]
  constructor
  · rintro ⟨hhead, rfl⟩
    exact (List.cons_head?_tail hhead).symm
  · rintro rfl
    exact ⟨rfl, rfl⟩

theorem nest?_opening {scope : Scope} {scopes : List Scope}
    (h : scope.FitsIn scopes.head?) :
    nest? scopes [.opening scope] = some (scope :: scopes) := by
  rw [nest?_cons, change?_opening.mpr ⟨h, rfl⟩]
  rfl

theorem nest?_closing (scope : Scope) (scopes : List Scope) :
    nest? (scope :: scopes) [.closing scope] = some scopes := by
  rw [nest?_cons, change?_closing.mpr rfl]
  rfl

theorem Balanced.nest? {outer? : Option Scope} {tags : List ListTag}
    (h : Balanced outer? tags) {scopes : List Scope} (hscopes : scopes.head? = outer?) :
    Page.nest? scopes tags = some scopes := by
  induction h generalizing scopes with
  | nil => rfl
  | @pair outer? scope inner rest hfits _ _ ihinner ihrest =>
      rw [← hscopes] at hfits
      have hopen := change?_opening.mpr ⟨hfits, rfl⟩
      have hinner : Page.nest? (scope :: scopes) inner = some (scope :: scopes) :=
        ihinner rfl
      have hclose := change?_closing.mpr (Eq.refl (scope :: scopes))
      rw [List.cons_append, nest?_cons, hopen, Option.bind_some, nest?_append, hinner,
        Option.bind_some, nest?_cons, hclose, Option.bind_some, ihrest hscopes]

/-- The word closes the scopes one by one, with balanced words before each closing tag
and at the end. -/
inductive Closes : List Scope -> List ListTag -> Prop
  | done {tags : List ListTag} : Balanced none tags -> Closes [] tags
  | close {scope : Scope} {scopes : List Scope} {inner rest : List ListTag} :
      Balanced (some scope) inner -> Closes scopes rest ->
      Closes (scope :: scopes) (inner ++ .closing scope :: rest)

theorem Closes.pair {scope : Scope} {scopes : List Scope} {inner tags : List ListTag}
    (hfits : scope.FitsIn scopes.head?) (hinner : Balanced (some scope) inner)
    (h : Closes scopes tags) :
    Closes scopes (.opening scope :: inner ++ .closing scope :: tags) := by
  cases h with
  | done hbalanced => exact Closes.done (Balanced.pair hfits hinner hbalanced)
  | @close outer scopes before rest hbefore hrest =>
      have hword : ListTag.opening scope :: inner ++
            ListTag.closing scope :: (before ++ ListTag.closing outer :: rest) =
          (ListTag.opening scope :: inner ++ ListTag.closing scope :: before) ++
            ListTag.closing outer :: rest := by
        simp
      rw [hword]
      exact Closes.close (Balanced.pair hfits hinner hbefore) hrest

theorem closes_of_nest? {scopes : List Scope} {tags : List ListTag}
    (h : nest? scopes tags = some []) : Closes scopes tags := by
  induction tags generalizing scopes with
  | nil =>
      cases h
      exact Closes.done Balanced.nil
  | cons listTag tags ih =>
      rw [nest?_cons] at h
      rcases Option.bind_eq_some_iff.mp h with ⟨changed, hchange, hrest⟩
      have hcloses := ih hrest
      cases listTag with
      | opening scope =>
          -- The scope is the first one that the rest of the word closes; what stands
          -- before its closing tag is balanced by the induction hypothesis.
          rcases change?_opening.mp hchange with ⟨hfits, rfl⟩
          cases hcloses with
          | close hinner hafter => exact Closes.pair hfits hinner hafter
      | closing scope =>
          rw [change?_closing.mp hchange]
          exact Closes.close Balanced.nil hcloses

/-- A word is balanced exactly when it is nested and leaves nothing open. -/
theorem balanced_iff_nest? {tags : List ListTag} :
    Balanced none tags <-> nest? [] tags = some [] := by
  constructor
  · intro h
    exact h.nest? rfl
  · intro h
    cases closes_of_nest? h with
    | done hbalanced => exact hbalanced

theorem nest?_closing_all (scopes : List Scope) :
    nest? scopes (scopes.map ListTag.closing) = some [] := by
  induction scopes with
  | nil => rfl
  | cons scope scopes ih =>
      rw [List.map_cons, nest?_cons, change?_closing.mpr rfl, Option.bind_some, ih]

/-!
## List tags of a body
-/

def Fragment.listTag? : Fragment -> Option ListTag
  | .openList kind => some (.opening (.list kind))
  | .closeList kind => some (.closing (.list kind))
  | .openEntry kind => some (.opening (.entry kind))
  | .closeEntry kind => some (.closing (.entry kind))
  | _ => none

theorem readsTags_listTag : ReadsTags ListTag.at? := by
  intro t ht
  apply List.find?_eq_none.mpr
  intro listTag _
  have hprint : exists rest, listTag.print = '<' :: rest := by
    cases listTag with
    | opening scope => exact ⟨_, rfl⟩
    | closing scope => exact ⟨_, rfl⟩
  rcases hprint with ⟨rest, hprint⟩
  rw [Text.startsWith, hprint, Text.after?_cons_of_head rest ht]
  simp

theorem listTag_at?_print {fragment : Fragment} (h : fragment.isMarkup = true) (t : Text) :
    ListTag.at? (fragment.print ++ t) = fragment.listTag? := by
  cases fragment with
  | text _ => cases h
  | tag _ => cases h
  | openList kind => cases kind <;> rfl
  | closeList kind => cases kind <;> rfl
  | openEntry kind => cases kind <;> rfl
  | closeEntry kind => cases kind <;> rfl
  | _ => rfl

theorem listTags_printBody {instructions : List Instruction}
    (h : forall inst, inst ∈ instructions -> '<' ∉ inst.element) :
    listTags (printBody instructions) =
      (body instructions).filterMap Fragment.listTag? := by
  have hunmarked : forall fragment, fragment ∈ body instructions ->
      fragment.Unmarked := by
    intro fragment hfragment
    rcases comesFrom_of_mem_bodyFrom hfragment with ⟨inst, hinst, hcomes⟩
    exact hcomes.unmarked (h inst hinst)
  have hplain : forall fragment : Fragment, fragment.isMarkup = false ->
      fragment.listTag? = none := by
    intro fragment hfragment
    cases fragment with
    | text _ => rfl
    | tag _ => rfl
    | _ => cases hfragment
  have hread := Fragment.occurrences_printAll readsTags_listTag Fragment.listTag?
    hunmarked (fun fragment _ => listTag_at?_print) (fun fragment _ => hplain fragment) []
  rw [occurrences_nil readsTags_listTag, List.append_nil, List.append_nil] at hread
  exact hread

/-!
## Open scopes
-/

/-- The list tags that a change writes lead to the scopes that it leaves open. -/
def Tracks (change : List Scope -> List Fragment × List Scope) : Prop :=
  forall scopes,
    nest? scopes ((change scopes).1.filterMap Fragment.listTag?) = some (change scopes).2

theorem tracks_closeEntry : Tracks closeEntry := by
  intro scopes
  unfold closeEntry
  split
  · exact nest?_closing _ _
  · rfl

theorem tracks_closeList : Tracks closeList := by
  intro scopes
  unfold closeList
  split
  · exact nest?_closing _ _
  · rfl

theorem tracks_openEntry (title : Text) : Tracks (openEntry title) := by
  intro scopes
  unfold openEntry
  split
  · exact @nest?_opening (.entry .bulleted) _ rfl
  · exact @nest?_opening (.entry .definition) _ rfl
  · rfl

theorem Tracks.inTurn {first second : List Scope -> List Fragment × List Scope}
    (hfirst : Tracks first) (hsecond : Tracks second) : Tracks (inTurn first second) := by
  intro scopes
  rw [Page.inTurn, List.filterMap_append, nest?_append, hfirst scopes, Option.bind_some,
    hsecond]

theorem tracks_step (inst : Instruction) (next? : Option Instruction) :
    Tracks fun scopes => step scopes inst next? := by
  intro scopes
  unfold step
  split
  case h_1 => rfl
  case h_2 =>
    have hfits : (Scope.list (listKind next?)).FitsIn scopes.head? := trivial
    exact nest?_opening hfits
  case h_3 => exact tracks_closeEntry.inTurn tracks_closeList scopes
  case h_4 => exact tracks_closeEntry.inTurn (tracks_openEntry inst.title) scopes
  case h_5 => rfl
  case h_6 => rfl

theorem filterMap_listTag?_contentFragments (content : List Text) :
    (contentFragments content).filterMap Fragment.listTag? = [] := by
  apply List.filterMap_eq_nil_iff.mpr
  intro fragment hfragment
  rcases mem_contentFragments hfragment with hinline | ⟨t, rfl⟩
  · simp only [List.mem_cons, List.not_mem_nil, or_false] at hinline
    rcases hinline with rfl | rfl | rfl | rfl | rfl <;> rfl
  · rfl

theorem nest?_bodyFrom (scopes : List Scope) (instructions : List Instruction) :
    nest? scopes ((bodyFrom scopes instructions).filterMap Fragment.listTag?) =
      some (scopesAfter scopes instructions) := by
  induction instructions generalizing scopes with
  | nil => rfl
  | cons inst rest ih =>
      have hstep := tracks_step inst rest.head? scopes
      rw [bodyFrom, List.filterMap_append, List.filterMap_append,
        filterMap_listTag?_contentFragments, List.append_nil, nest?_append, hstep,
        Option.bind_some, ih, scopesAfter]

/-!
## Open lists
-/

/-- Every entry sits directly on a list of its kind. -/
inductive Seated : List Scope -> Prop
  | nil : Seated []
  | list {kind : ListKind} {scopes : List Scope} :
      Seated scopes -> Seated (.list kind :: scopes)
  | entry {kind : ListKind} {scopes : List Scope} :
      Seated scopes -> Seated (.entry kind :: .list kind :: scopes)

/-- The number of open lists after an instruction, from the number before it.  An end
of list without a list does not count. -/
def countLists (count : Nat) (inst : Instruction) : Nat :=
  if inst.element = "over".toList then count + 1
  else if inst.element = "back".toList then count - 1
  else count

/-- The number of lists that instructions begin and do not end. -/
def openLists (instructions : List Instruction) : Nat :=
  instructions.foldl countLists 0

theorem roleOf_eq_over {element : Text} :
    Instruction.roleOf element = .over <-> element = "over".toList := by
  constructor
  · intro h
    have hrole := hasRole_roleOf element
    rw [h] at hrole
    cases hrole with
    | «over» heq => exact heq
  · rintro rfl
    rfl

theorem roleOf_eq_back {element : Text} :
    Instruction.roleOf element = .back <-> element = "back".toList := by
  constructor
  · intro h
    have hrole := hasRole_roleOf element
    rw [h] at hrole
    cases hrole with
    | back heq => exact heq
  · rintro rfl
    rfl

theorem countLists_eq (count : Nat) (inst : Instruction) :
    countLists count inst =
      if inst.role = .over then count + 1
      else if inst.role = .back then count - 1
      else count := by
  simp only [countLists, Instruction.role, roleOf_eq_over, roleOf_eq_back]

@[simp] theorem countP_list (kind : ListKind) (scopes : List Scope) :
    (Scope.list kind :: scopes).countP Scope.isList = scopes.countP Scope.isList + 1 :=
  List.countP_cons_of_pos rfl

@[simp] theorem countP_entry (kind : ListKind) (scopes : List Scope) :
    (Scope.entry kind :: scopes).countP Scope.isList = scopes.countP Scope.isList :=
  List.countP_cons_of_neg Bool.false_ne_true

theorem seated_step {scopes : List Scope} (h : Seated scopes) (inst : Instruction)
    (next? : Option Instruction) :
    Seated (step scopes inst next?).2 ∧
      (step scopes inst next?).2.countP Scope.isList =
        countLists (scopes.countP Scope.isList) inst := by
  rw [countLists_eq]
  unfold step
  cases inst.role with
  | heading level => exact ⟨h, rfl⟩
  | free => exact ⟨h, rfl⟩
  | untagged => exact ⟨h, rfl⟩
  | «over» => exact ⟨Seated.list h, List.countP_cons_of_pos rfl⟩
  | back =>
      -- Two scopes are closed only where an entry is the innermost, and then the second
      -- one is its list, so the count goes down by one either way.
      cases h with
      | nil => exact ⟨Seated.nil, rfl⟩
      | list hbelow =>
          refine ⟨hbelow, ?_⟩
          rw [countP_list]
          rfl
      | entry hbelow =>
          refine ⟨hbelow, ?_⟩
          rw [countP_entry, countP_list]
          rfl
  | item =>
      cases h with
      | nil => exact ⟨Seated.nil, rfl⟩
      | @list kind _ hbelow =>
          cases kind with
          | bulleted => exact ⟨Seated.entry hbelow, rfl⟩
          | definition => exact ⟨Seated.entry hbelow, rfl⟩
      | @entry kind _ hbelow =>
          cases kind with
          | bulleted => exact ⟨Seated.entry hbelow, rfl⟩
          | definition => exact ⟨Seated.entry hbelow, rfl⟩

theorem seated_scopesAfter {scopes : List Scope} (h : Seated scopes)
    (instructions : List Instruction) :
    Seated (scopesAfter scopes instructions) ∧
      (scopesAfter scopes instructions).countP Scope.isList =
        instructions.foldl countLists (scopes.countP Scope.isList) := by
  induction instructions generalizing scopes with
  | nil => exact ⟨h, rfl⟩
  | cons inst rest ih =>
      rcases seated_step h inst rest.head? with ⟨hseated, hcount⟩
      rcases ih hseated with ⟨hafter, htotal⟩
      rw [hcount] at htotal
      exact ⟨hafter, htotal⟩

/-- Where an entry is open, so is its list. -/
theorem Seated.eq_nil_of_countP {scopes : List Scope} (h : Seated scopes)
    (hcount : scopes.countP Scope.isList = 0) : scopes = [] := by
  cases h with
  | nil => rfl
  | list hbelow => simp at hcount
  | entry hbelow => simp at hcount

/-- The list tags of a printed body are nested: each closing tag closes the innermost
open scope, an entry is opened directly inside a list of its kind, and the closing tags
of the scopes that stay open make the word balanced.  As many lists stay open as the
instructions begin and do not end. -/
theorem listTags_nested (instructions : List Instruction)
    (h : forall inst, inst ∈ instructions -> '<' ∉ inst.element) :
    exists scopes : List Scope,
      nest? [] (listTags (printBody instructions)) = some scopes ∧
      Balanced none
        (listTags (printBody instructions) ++ scopes.map ListTag.closing) ∧
      scopes.countP Scope.isList = openLists instructions ∧
      (Balanced none (listTags (printBody instructions)) <->
        openLists instructions = 0) := by
  rcases seated_scopesAfter Seated.nil instructions with ⟨hseated, hcount⟩
  have hnest : nest? [] (listTags (printBody instructions)) =
      some (scopesAfter [] instructions) := by
    rw [listTags_printBody h]
    exact nest?_bodyFrom [] instructions
  refine ⟨scopesAfter [] instructions, hnest, ?_, hcount, ?_⟩
  · rw [balanced_iff_nest?, nest?_append, hnest, Option.bind_some, nest?_closing_all]
  · rw [balanced_iff_nest?, hnest, Option.some.injEq]
    constructor
    · intro hnil
      rw [openLists, ← List.countP_nil (p := Scope.isList), ← hcount, hnil]
    · intro hzero
      exact hseated.eq_nil_of_countP (hcount.trans hzero)

/-- An end and an item outside every list, a list of definitions with a list in its
entry, and after it a list in a list that stays open. -/
def ragged : List Instruction :=
  [⟨"back".toList, [], []⟩, ⟨"item".toList, "stray".toList, ["</ul>\n".toList]⟩,
    ⟨"over".toList, [], []⟩, ⟨"item".toList, "a<b".toList, ["text\n".toList]⟩,
    ⟨"over".toList, [], []⟩, ⟨"item".toList, [], []⟩, ⟨"back".toList, [], []⟩,
    ⟨"back".toList, [], []⟩, ⟨"over".toList, [], []⟩, ⟨"over".toList, [], []⟩,
    ⟨"head1".toList, "NAME".toList, []⟩, ⟨"item".toList, "last".toList, []⟩]

theorem ragged_nested :
    (forall inst, inst ∈ ragged -> '<' ∉ inst.element) ∧
    exists scopes : List Scope,
      nest? [] (listTags (printBody ragged)) = some scopes ∧
      Balanced none (listTags (printBody ragged) ++ scopes.map ListTag.closing) ∧
      scopes.countP Scope.isList = 2 ∧
      ¬ Balanced none (listTags (printBody ragged)) := by
  have helement : forall inst, inst ∈ ragged -> '<' ∉ inst.element := by decide
  have hopen : openLists ragged = 2 := by decide
  rcases listTags_nested ragged helement with ⟨scopes, hnest, hclosed, hcount, hbalanced⟩
  refine ⟨helement, scopes, hnest, hclosed, hcount.trans hopen, ?_⟩
  rw [hbalanced, hopen]
  decide

end Page
end PodManual
