import PodManual.Text.Utf8

/-!
# Joined and ordered texts

Pieces that were put together with a separator can be told apart again, unless a
piece holds the separator.  The order of texts by code point is the lexicographic
order of their characters.
-/

namespace PodManual
namespace Text

/-!
## Pieces put together
-/

theorem joinWith_append (sep : Text) {first second : List Text}
    (hfirst : first ≠ []) (hsecond : second ≠ []) :
    joinWith sep (first ++ second) = joinWith sep first ++ sep ++ joinWith sep second := by
  induction first with
  | nil => exact absurd rfl hfirst
  | cons piece rest ih =>
      cases rest with
      | nil => exact joinWith_cons_of_ne_nil sep piece hsecond
      | cons next rest =>
          rw [List.cons_append, joinWith_cons_of_ne_nil sep piece (by simp),
            ih (List.cons_ne_nil _ _),
            joinWith_cons_of_ne_nil sep piece (List.cons_ne_nil next rest)]
          simp only [List.append_assoc]

theorem cutAt_append {sep : Char} {piece : Text} (h : sep ∉ piece) (rest : Text) :
    cutAt sep (piece ++ sep :: rest) = piece :: cutAt sep rest := by
  induction piece with
  | nil => simp [cutAt]
  | cons c piece ih =>
      have hc : c ≠ sep := by
        rintro rfl
        exact h List.mem_cons_self
      have hpiece : sep ∉ piece := fun hmem => h (List.mem_cons_of_mem _ hmem)
      rw [List.cons_append, cutAt, if_neg hc, ih hpiece]

theorem cutAt_of_notMem {sep : Char} {piece : Text} (h : sep ∉ piece) :
    cutAt sep piece = [piece] := by
  induction piece with
  | nil => rfl
  | cons c piece ih =>
      have hc : c ≠ sep := by
        rintro rfl
        exact h List.mem_cons_self
      have hpiece : sep ∉ piece := fun hmem => h (List.mem_cons_of_mem _ hmem)
      rw [cutAt, if_neg hc, ih hpiece]

theorem cutAt_joinWith {sep : Char} {pieces : List Text} (hne : pieces ≠ [])
    (h : forall piece, piece ∈ pieces -> sep ∉ piece) :
    cutAt sep (joinWith [sep] pieces) = pieces := by
  induction pieces with
  | nil => exact absurd rfl hne
  | cons piece rest ih =>
      have hpiece := h piece List.mem_cons_self
      cases rest with
      | nil => exact cutAt_of_notMem hpiece
      | cons next rest =>
          rw [joinWith_cons_of_ne_nil _ _ (List.cons_ne_nil next rest), List.append_assoc,
            List.singleton_append, cutAt_append hpiece,
            ih (List.cons_ne_nil _ _)
              (fun other hother => h other (List.mem_cons_of_mem _ hother))]

theorem mem_of_mem_cutAt {sep c : Char} {t piece : Text} (h : piece ∈ cutAt sep t)
    (hc : c ∈ piece) : c ∈ t := by
  induction t generalizing piece with
  | nil =>
      rw [cutAt, List.mem_singleton] at h
      simp [h] at hc
  | cons d t ih =>
      rw [cutAt] at h
      split at h
      · rcases List.mem_cons.mp h with rfl | hrest
        · simp at hc
        · exact List.mem_cons_of_mem _ (ih hrest hc)
      · cases hcut : cutAt sep t with
        | nil => exact absurd hcut (cutAt_ne_nil sep t)
        | cons first others =>
            rw [hcut] at h ih
            rcases List.mem_cons.mp h with rfl | hrest
            · rcases List.mem_cons.mp hc with rfl | hfirst
              · exact List.mem_cons_self
              · exact List.mem_cons_of_mem _ (ih List.mem_cons_self hfirst)
            · exact List.mem_cons_of_mem _ (ih (List.mem_cons_of_mem _ hrest) hc)

/-!
## Order by code point
-/

/-- The first text comes strictly before the second: by code point at the first
character in which they differ, or as its beginning. -/
def Before (s t : Text) : Prop :=
  List.Lex (fun a b : Char => a.toNat < b.toNat) s t

theorem precedes_iff {s t : Text} : precedes s t = true <-> Before s t ∨ s = t := by
  induction s generalizing t with
  | nil =>
      cases t with
      | nil => exact iff_of_true rfl (Or.inr rfl)
      | cons b t => exact iff_of_true rfl (Or.inl List.Lex.nil)
  | cons a s ih =>
      cases t with
      | nil =>
          refine iff_of_false Bool.false_ne_true ?_
          rintro (hbefore | heq)
          · cases hbefore
          · cases heq
      | cons b t =>
          rw [precedes]
          by_cases hab : a = b
          · subst hab
            rw [if_pos rfl, ih]
            constructor
            · rintro (hbefore | rfl)
              · exact Or.inl (List.Lex.cons hbefore)
              · exact Or.inr rfl
            · rintro (hbefore | heq)
              · cases hbefore with
                | cons hrest => exact Or.inl hrest
                | rel hless => exact absurd hless (Nat.lt_irrefl _)
              · cases heq
                exact Or.inr rfl
          · rw [if_neg hab, decide_eq_true_eq]
            constructor
            · intro hless
              exact Or.inl (List.Lex.rel hless)
            · rintro (hbefore | heq)
              · cases hbefore with
                | cons hrest => exact absurd rfl hab
                | rel hless => exact hless
              · cases heq
                exact absurd rfl hab

theorem not_before_self (t : Text) : ¬ Before t t := by
  induction t with
  | nil =>
      intro hbefore
      cases hbefore
  | cons c t ih =>
      intro hbefore
      cases hbefore with
      | cons hrest => exact ih hrest
      | rel hless => exact Nat.lt_irrefl _ hless

theorem Before.trans {s t u : Text} (hfirst : Before s t) (hsecond : Before t u) :
    Before s u := by
  unfold Before at *
  induction hfirst generalizing u with
  | nil =>
      cases hsecond with
      | cons _ => exact List.Lex.nil
      | rel _ => exact List.Lex.nil
  | cons _ ih =>
      cases hsecond with
      | cons hrest => exact List.Lex.cons (ih hrest)
      | rel hless => exact List.Lex.rel hless
  | rel hless =>
      cases hsecond with
      | cons _ => exact List.Lex.rel hless
      | rel hnext => exact List.Lex.rel (Nat.lt_trans hless hnext)

theorem before_or_before (s t : Text) : Before s t ∨ s = t ∨ Before t s := by
  induction s generalizing t with
  | nil =>
      cases t with
      | nil => exact Or.inr (Or.inl rfl)
      | cons b t => exact Or.inl List.Lex.nil
  | cons a s ih =>
      cases t with
      | nil => exact Or.inr (Or.inr List.Lex.nil)
      | cons b t =>
          rcases Nat.lt_trichotomy a.toNat b.toNat with hless | heq | hmore
          · exact Or.inl (List.Lex.rel hless)
          · cases Char.toNat_inj.mp heq
            rcases ih t with hbefore | rfl | hafter
            · exact Or.inl (List.Lex.cons hbefore)
            · exact Or.inr (Or.inl rfl)
            · exact Or.inr (Or.inr (List.Lex.cons hafter))
          · exact Or.inr (Or.inr (List.Lex.rel hmore))

theorem precedes_trans {s t u : Text} (hfirst : precedes s t = true)
    (hsecond : precedes t u = true) : precedes s u = true := by
  rw [precedes_iff] at hfirst hsecond ⊢
  rcases hfirst with hfirst | rfl
  · rcases hsecond with hsecond | rfl
    · exact Or.inl (hfirst.trans hsecond)
    · exact Or.inl hfirst
  · exact hsecond

theorem precedes_total (s t : Text) : (precedes s t || precedes t s) = true := by
  rw [Bool.or_eq_true, precedes_iff, precedes_iff]
  rcases before_or_before s t with hbefore | rfl | hafter
  · exact Or.inl (Or.inl hbefore)
  · exact Or.inl (Or.inr rfl)
  · exact Or.inr (Or.inl hafter)

end Text
end PodManual
