import PodManual.Proofs.Page.Escape
import PodManual.Proofs.Page.Outline

/-!
# Anchors

The contents lead to a heading by its anchor, which is made of the title alone.  Since
escaping loses nothing, an anchor tells which title it was made of.

Main statement: escaping in passes is escaping character by character, decoding undoes
it, and a link of the contents leads to a heading of the body exactly when it is the
link of a heading with the same title.
-/

namespace PodManual
namespace Page

def ContentsPiece.target? : ContentsPiece -> Option Text
  | .entry title => some (anchor title)
  | _ => none

def Fragment.identifier? : Fragment -> Option Text
  | .openHeading _ title => some (anchor title)
  | _ => none

/-- The links of the contents, from the first to the last. -/
def links (instructions : List Instruction) : List Text :=
  (contents instructions).filterMap ContentsPiece.target?

/-- The anchors of the body, from the first to the last. -/
def identifiers (instructions : List Instruction) : List Text :=
  (body instructions).filterMap Fragment.identifier?

theorem filterMap_target?_changeDepth (first second : Nat) :
    (changeDepth first second).filterMap ContentsPiece.target? = [] := by
  apply List.filterMap_eq_nil_iff.mpr
  intro piece hpiece
  have hmark : piece.mark ∈ straight first second := by
    rw [← map_mark_changeDepth]
    exact List.mem_map_of_mem hpiece
  cases piece with
  | entry title => cases isEntry_of_mem_straight hmark
  | _ => rfl

theorem filterMap_target?_contentsFrom (level : Nat) (instructions : List Instruction) :
    (contentsFrom level instructions).filterMap ContentsPiece.target? =
      (headings instructions).map fun heading => anchor heading.2 := by
  induction instructions generalizing level with
  | nil =>
      show (List.replicate level ContentsPiece.finish).filterMap _ = []
      rw [List.filterMap_replicate_of_none rfl]
  | cons inst rest ih =>
      by_cases hheading : exists next, inst.role = .heading next
      · rcases hheading with ⟨next, hrole⟩
        have hentry : (ContentsPiece.entry inst.title).target? = some (anchor inst.title) := rfl
        rw [contentsFrom_cons_of_heading hrole, headings_cons_of_heading hrole,
          List.filterMap_append, filterMap_target?_changeDepth, List.nil_append,
          List.filterMap_cons_some hentry, ih, List.map_cons]
      · have hother : forall next, inst.role ≠ .heading next := not_exists.mp hheading
        rw [contentsFrom_cons_of_other hother, headings_cons_of_other hother, ih]

theorem filterMap_identifier?_contentFragments (content : List Text) :
    (contentFragments content).filterMap Fragment.identifier? = [] := by
  apply List.filterMap_eq_nil_iff.mpr
  intro fragment hfragment
  rcases mem_contentFragments hfragment with hinline | ⟨t, rfl⟩
  · simp only [List.mem_cons, List.not_mem_nil, or_false] at hinline
    rcases hinline with rfl | rfl | rfl | rfl | rfl <;> rfl
  · rfl

/-- Only a heading writes an anchor into the body. -/
theorem filterMap_identifier?_step {inst : Instruction}
    (h : forall level, inst.role ≠ .heading level) (scopes : List Scope)
    (next? : Option Instruction) :
    (step scopes inst next?).1.filterMap Fragment.identifier? = [] := by
  apply List.filterMap_eq_nil_iff.mpr
  intro fragment hfragment
  have hcomes := comesFrom_of_mem_step hfragment
  cases fragment with
  | openHeading level title => exact absurd hcomes (h level)
  | _ => rfl

theorem filterMap_identifier?_bodyFrom (scopes : List Scope)
    (instructions : List Instruction) :
    (bodyFrom scopes instructions).filterMap Fragment.identifier? =
      (headings instructions).map fun heading => anchor heading.2 := by
  induction instructions generalizing scopes with
  | nil => rfl
  | cons inst rest ih =>
      rw [bodyFrom, List.filterMap_append, List.filterMap_append,
        filterMap_identifier?_contentFragments, List.append_nil, ih]
      by_cases hheading : exists level, inst.role = .heading level
      · rcases hheading with ⟨level, hrole⟩
        rw [step_of_heading _ _ hrole, headings_cons_of_heading hrole]
        rfl
      · have hother : forall level, inst.role ≠ .heading level := not_exists.mp hheading
        rw [filterMap_identifier?_step hother, headings_cons_of_other hother,
          List.nil_append]

/-- Escaping loses nothing.  The five passes over a whole text escape it character by
character, and decoding gives every text back; so headings share an anchor exactly when
they share a title, and on every page a link leads to the headings that have the title
of its own. -/
theorem escape_loses_nothing :
    (forall t : Text,
      Text.respellInTurn escapePasses t = escape t ∧ unescape (escape t) = t) ∧
    (forall s t : Text, anchor s = anchor t <-> s = t) ∧
    forall (instructions : List Instruction) (place other : Nat) (link identifier : Text),
      (links instructions)[place]? = some link ->
      (identifiers instructions)[other]? = some identifier ->
      exists own target : Nat × Text,
        (headings instructions)[place]? = some own ∧
        (headings instructions)[other]? = some target ∧
        (link = identifier <-> own.2 = target.2) := by
  refine ⟨fun t => ⟨respellInTurn_escapePasses t, unescape_escape t⟩,
    fun s t => anchor_inj, ?_⟩
  intro instructions place other link identifier hlink hidentifier
  rw [links, contents, filterMap_target?_contentsFrom, List.getElem?_map] at hlink
  rw [identifiers, body, filterMap_identifier?_bodyFrom, List.getElem?_map] at hidentifier
  rcases Option.map_eq_some_iff.mp hlink with ⟨own, hown, rfl⟩
  rcases Option.map_eq_some_iff.mp hidentifier with ⟨target, htarget, rfl⟩
  exact ⟨own, target, hown, htarget, anchor_inj⟩

theorem ladder_link_is_shared :
    (links ladder)[0]? = some "POD_A &amp; B".toList ∧
    (identifiers ladder)[2]? = some "POD_A &amp; B".toList ∧
    exists own target : Nat × Text,
      (headings ladder)[0]? = some own ∧ (headings ladder)[2]? = some target ∧
      own.2 = target.2 := by
  have hlink : (links ladder)[0]? = some "POD_A &amp; B".toList := by decide +kernel
  have hidentifier : (identifiers ladder)[2]? = some "POD_A &amp; B".toList := by
    decide +kernel
  rcases escape_loses_nothing with ⟨_, _, hpage⟩
  rcases hpage ladder 0 2 _ _ hlink hidentifier with ⟨own, target, hown, htarget, hiff⟩
  exact ⟨hlink, hidentifier, own, target, hown, htarget, hiff.mp rfl⟩

end Page
end PodManual
