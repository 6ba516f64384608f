import Mathlib.Data.List.DropRight
import PodManual.Text.Blank
import PodManual.Text.Utf8

/-!
# Lines and their ends

Stripping leaves a text without white space at its ends and undoes any white space
put around such a text.  A text that was put together from lines is cut into the
same lines again.
-/

namespace PodManual
namespace Text

/-!
## White space at the ends
-/

/-- There is no white space at either end. -/
def Trimmed (t : Text) : Prop :=
  (forall c, c ∈ t.head? -> isBlank c = false) ∧
    forall c, c ∈ t.getLast? -> isBlank c = false

theorem trimmed_iff {t : Text} :
    Trimmed t <->
      t.head?.any isBlank = false ∧ t.getLast?.any isBlank = false := by
  unfold Trimmed
  cases t.head? <;> cases t.getLast? <;> simp

instance (t : Text) : Decidable (Trimmed t) :=
  decidable_of_iff _ trimmed_iff.symm

theorem trimmed_strip (t : Text) : Trimmed (strip t) := by
  have hstrip : strip t = (t.dropWhile isBlank).rdropWhile isBlank := rfl
  constructor
  · intro c hc
    have hfront : strip t <+: t.dropWhile isBlank := by
      rw [hstrip]
      exact List.rdropWhile_prefix isBlank _
    have hhead : (t.dropWhile isBlank).head? = some c := by
      rcases hfront with ⟨ending, hending⟩
      rw [← hending, List.head?_append, Option.mem_def.mp hc]
      rfl
    have hnot := List.head?_dropWhile_not isBlank t
    rw [hhead] at hnot
    exact hnot
  · intro c hc
    rcases List.getLast?_eq_some_iff.mp hc with ⟨front, hlast⟩
    have hne : (t.dropWhile isBlank).rdropWhile isBlank ≠ [] := by
      rw [← hstrip, hlast]
      simp
    have hnot := List.rdropWhile_last_not isBlank (t.dropWhile isBlank) hne
    simpa [← hstrip, hlast] using hnot

theorem takeWhile_dropWhile_append {p : Char -> Bool} {t rest : Text}
    (ht : forall c, c ∈ t -> p c = true) (hrest : forall c, c ∈ rest.head? -> p c = false) :
    (t ++ rest).takeWhile p = t ∧ (t ++ rest).dropWhile p = rest := by
  rw [List.takeWhile_append_of_pos ht, List.dropWhile_append_of_pos ht]
  cases rest with
  | nil => simp
  | cons c rest =>
      have hc : ¬ p c = true := by
        rw [hrest c rfl]
        exact Bool.false_ne_true
      rw [List.takeWhile_cons_of_neg hc, List.dropWhile_cons_of_neg hc, List.append_nil]
      exact ⟨rfl, rfl⟩

theorem dropWhile_of_allBlank {t : Text} (h : allBlank t = true) :
    t.dropWhile isBlank = [] :=
  List.dropWhile_eq_nil_iff.mpr (List.all_eq_true.mp h)

theorem strip_surrounded {before t after : Text} (hbefore : allBlank before = true)
    (hafter : allBlank after = true) (h : Trimmed t) :
    strip (before ++ (t ++ after)) = t := by
  have hfront : (before ++ (t ++ after)).dropWhile isBlank =
      (t ++ after).dropWhile isBlank := by
    rw [List.dropWhile_append, dropWhile_of_allBlank hbefore]
    rfl
  have hback : (t ++ after).rdropWhile isBlank = t := by
    have hreverse : (t ++ after).rdropWhile isBlank = t.rdropWhile isBlank := by
      have hall : allBlank after.reverse = true := by
        rw [allBlank, List.all_reverse]
        exact hafter
      rw [List.rdropWhile, List.reverse_append, List.dropWhile_append,
        dropWhile_of_allBlank hall]
      rfl
    rw [hreverse, List.rdropWhile_eq_self_iff]
    intro hne
    rw [h.right _ (List.getLast_mem_getLast? hne)]
    exact Bool.false_ne_true
  rw [strip, dropEnds, hfront]
  cases t with
  | nil =>
      rw [List.nil_append, dropWhile_of_allBlank hafter]
      rfl
  | cons c rest =>
      have hc : isBlank c = false := h.left c rfl
      rw [List.cons_append, List.dropWhile_cons_of_neg (by simp [hc])]
      exact hback

/-!
## White space after more text
-/

theorem allBlank_append (t rest : Text) :
    allBlank (t ++ rest) = (allBlank t && allBlank rest) :=
  List.all_append

theorem allBlank_dropWhile (t : Text) : allBlank (t.dropWhile isBlank) = allBlank t := by
  conv_rhs => rw [← List.takeWhile_append_dropWhile (p := isBlank) (l := t)]
  rw [allBlank_append, allBlank, allBlank, List.all_takeWhile, Bool.true_and]

theorem dropEnd_append_of_allBlank (t : Text) {rest : Text} (h : allBlank rest = true) :
    dropEnd isBlank (t ++ rest) = dropEnd isBlank t := by
  have hall : allBlank rest.reverse = true := by
    rw [allBlank, List.all_reverse]
    exact h
  rw [dropEnd, List.reverse_append, List.dropWhile_append, dropWhile_of_allBlank hall]
  rfl

theorem dropEnd_append_of_not_allBlank (t : Text) {rest : Text} (h : allBlank rest = false) :
    dropEnd isBlank (t ++ rest) = t ++ dropEnd isBlank rest := by
  have hne : rest.reverse.dropWhile isBlank ≠ [] := by
    intro hnil
    have hall : allBlank rest.reverse = true :=
      List.all_eq_true.mpr (List.dropWhile_eq_nil_iff.mp hnil)
    rw [allBlank, List.all_reverse, ← allBlank, h] at hall
    cases hall
  rw [dropEnd, List.reverse_append, List.dropWhile_append, if_neg (by simpa using hne)]
  simp [dropEnd]

theorem dropEnd_of_allBlank {t : Text} (h : allBlank t = true) : dropEnd isBlank t = [] :=
  dropEnd_append_of_allBlank [] h

theorem mem_dropEnd_append {c : Char} {t : Text} (before : Text)
    (h : c ∈ dropEnd isBlank t) : c ∈ dropEnd isBlank (before ++ t) := by
  cases hblank : allBlank t with
  | true =>
      rw [dropEnd_of_allBlank hblank] at h
      cases h
  | false =>
      rw [dropEnd_append_of_not_allBlank before hblank]
      exact List.mem_append_right _ h

theorem dropEnd_cons {c : Char} {t : Text} (h : allBlank (c :: t) = false) :
    dropEnd isBlank (c :: t) = c :: dropEnd isBlank t := by
  cases hblank : allBlank t with
  | false => exact dropEnd_append_of_not_allBlank [c] hblank
  | true =>
      have hc : isBlank c = false := by
        rwa [allBlank, List.all_cons, ← allBlank, hblank, Bool.and_true] at h
      have hone : dropEnd isBlank [c] = [c] := by
        rw [dropEnd, List.reverse_singleton, List.dropWhile_cons_of_neg (by simp [hc])]
        rfl
      rw [← List.singleton_append, dropEnd_append_of_allBlank [c] hblank,
        dropEnd_of_allBlank hblank, hone]

theorem mem_strip_append {c : Char} {t : Text} (before : Text) (h : c ∈ strip t) :
    c ∈ strip (before ++ t) := by
  have hmem : c ∈ dropEnd isBlank t := by
    have happend := mem_dropEnd_append (t.takeWhile isBlank) h
    rwa [List.takeWhile_append_dropWhile] at happend
  rw [strip, dropEnds, List.dropWhile_append]
  split
  · exact h
  · exact mem_dropEnd_append _ hmem

theorem strip_strip (t : Text) : strip (strip t) = strip t := by
  have h : strip ([] ++ (strip t ++ [])) = strip t :=
    strip_surrounded rfl rfl (trimmed_strip t)
  rwa [List.nil_append, List.append_nil] at h

/-!
## Lines
-/

/-- The text is a line with the line feed that ends it. -/
def IsLine (t : Text) : Prop :=
  exists front, t = front ++ ['\n'] ∧ '\n' ∉ front

theorem isLine_iff {t : Text} :
    IsLine t <-> t.getLast? = some '\n' ∧ '\n' ∉ t.dropLast := by
  constructor
  · rintro ⟨front, rfl, hfront⟩
    rw [List.getLast?_concat, List.dropLast_concat]
    exact ⟨rfl, hfront⟩
  · rintro ⟨hlast, hfront⟩
    exact ⟨t.dropLast, (List.dropLast_append_getLast? _ hlast).symm, hfront⟩

instance (t : Text) : Decidable (IsLine t) :=
  decidable_of_iff _ isLine_iff.symm

theorem lines_line_append {front : Text} (h : '\n' ∉ front) (rest : Text) :
    lines (front ++ '\n' :: rest) = (front ++ ['\n']) :: lines rest := by
  induction front with
  | nil => simp [lines]
  | cons c front ih =>
      have hc : c ≠ '\n' := by
        intro heq
        exact h (by simp [heq])
      have hfront : '\n' ∉ front := by
        intro hmem
        exact h (List.mem_cons_of_mem _ hmem)
      rw [List.cons_append, lines, if_neg hc, ih hfront]
      rfl

theorem lines_flatten {texts : List Text}
    (h : forall line, line ∈ texts -> IsLine line) : lines texts.flatten = texts := by
  induction texts with
  | nil => rfl
  | cons line texts ih =>
      rcases h line List.mem_cons_self with ⟨front, rfl, hfront⟩
      have hrest := ih fun other hother => h other (List.mem_cons_of_mem _ hother)
      rw [List.flatten_cons, List.append_assoc, List.singleton_append,
        lines_line_append hfront, hrest]

theorem isLine_of_append {beginning rest : Text} (hbeginning : '\n' ∉ beginning)
    (h : IsLine (beginning ++ rest)) : IsLine rest := by
  rcases h with ⟨front, heq, hfront⟩
  rcases List.eq_nil_or_concat rest with rfl | ⟨middle, c, rfl⟩
  · rw [List.append_nil] at heq
    exact absurd (by simp [heq]) hbeginning
  · rw [List.concat_eq_append, ← List.append_assoc] at heq
    rcases List.append_inj' heq rfl with ⟨hmiddle, hc⟩
    cases hc
    refine ⟨middle, by simp, ?_⟩
    intro hmem
    apply hfront
    rw [← hmiddle]
    exact List.mem_append_right _ hmem

theorem isLine_append {beginning rest : Text} (hbeginning : '\n' ∉ beginning)
    (h : IsLine rest) : IsLine (beginning ++ rest) := by
  rcases h with ⟨front, rfl, hfront⟩
  refine ⟨beginning ++ front, by simp, ?_⟩
  intro hmem
  rcases List.mem_append.mp hmem with hleft | hright
  · exact hbeginning hleft
  · exact hfront hright

end Text
end PodManual
