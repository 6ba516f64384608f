import PodManual.Text.Basic

/-!
# Respelling

Every occurrence of an element of a list is replaced by a list of its own, as when line
feeds become other line ends or characters become entities.  Respellings can be done one
after the other.  Where no later one finds its element in what an earlier one has
written, they are one pass that does at each element what the first respelling of it
does.
-/

namespace PodManual

/-- The list with an ending in place of every occurrence of an element, such as the line
feed. -/
def respell {α : Type} [DecidableEq α] (feed : α) (ending : List α) (l : List α) : List α :=
  l.flatMap fun a => if a = feed then ending else [a]

section Respell

variable {α : Type} [DecidableEq α] {feed : α} {ending : List α}

theorem respell_cons_self (rest : List α) :
    respell feed ending (feed :: rest) = ending ++ respell feed ending rest := by
  rw [respell, List.flatMap_cons, if_pos rfl]
  rfl

theorem respell_append_of_notMem {l : List α} (h : feed ∉ l) (rest : List α) :
    respell feed ending (l ++ rest) = l ++ respell feed ending rest := by
  induction l with
  | nil => rfl
  | cons a l ih =>
      have ha : a ≠ feed := (List.ne_of_not_mem_cons h).symm
      rw [List.cons_append, respell, List.flatMap_cons, if_neg ha, ← respell,
        ih (List.not_mem_of_not_mem_cons h)]
      rfl

theorem respell_cons_of_ne {a : α} (h : a ≠ feed) (rest : List α) :
    respell feed ending (a :: rest) = a :: respell feed ending rest :=
  respell_append_of_notMem (l := [a]) (mt List.mem_singleton.mp h.symm) rest

theorem notMem_respell (h : feed ∉ ending) (l : List α) : feed ∉ respell feed ending l := by
  intro hmem
  rcases List.mem_flatMap.mp hmem with ⟨a, _, ha⟩
  split at ha
  · exact h ha
  · rename_i hne
    exact hne (List.mem_singleton.mp ha).symm

theorem respell_append (first second : List α) :
    respell feed ending (first ++ second) =
      respell feed ending first ++ respell feed ending second :=
  List.flatMap_append

theorem respell_of_notMem {l : List α} (h : feed ∉ l) : respell feed ending l = l := by
  have happend : respell feed ending (l ++ []) = l ++ [] := respell_append_of_notMem h []
  rwa [List.append_nil] at happend

end Respell

namespace Text

def respellInTurn (passes : List (Char × Text)) (t : Text) : Text :=
  passes.foldl (fun text pass => respell pass.1 pass.2 text) t

theorem respellInTurn_append (passes : List (Char × Text)) (s t : Text) :
    respellInTurn passes (s ++ t) = respellInTurn passes s ++ respellInTurn passes t := by
  induction passes generalizing s t with
  | nil => rfl
  | cons pass passes ih =>
      show respellInTurn passes (respell pass.1 pass.2 (s ++ t)) = _
      rw [respell_append]
      exact ih _ _

theorem respellInTurn_of_notMem {passes : List (Char × Text)} {t : Text}
    (h : forall pass, pass ∈ passes -> pass.1 ∉ t) : respellInTurn passes t = t := by
  induction passes with
  | nil => rfl
  | cons pass passes ih =>
      show respellInTurn passes (respell pass.1 pass.2 t) = t
      rw [respell_of_notMem (h pass List.mem_cons_self)]
      exact ih fun other hother => h other (List.mem_cons_of_mem _ hother)

theorem respellInTurn_singleton {passes : List (Char × Text)}
    (h : passes.Pairwise fun earlier later => later.1 ∉ earlier.2) (c : Char) :
    respellInTurn passes [c] = (passes.lookup c).getD [c] := by
  induction passes with
  | nil => rfl
  | cons pass passes ih =>
      rcases List.pairwise_cons.mp h with ⟨hlater, hpasses⟩
      show respellInTurn passes (respell pass.1 pass.2 [c]) = _
      rw [List.lookup_cons]
      by_cases hc : c = pass.1
      · have hnew : respell pass.1 pass.2 [c] = pass.2 := by
          rw [hc, respell_cons_self]
          exact List.append_nil _
        rw [hnew, respellInTurn_of_notMem hlater, beq_iff_eq.mpr hc]
        rfl
      · have hold : pass.1 ∉ [c] := by
          rw [List.mem_singleton]
          exact fun heq => hc heq.symm
        rw [respell_of_notMem hold, ih hpasses, beq_eq_false_iff_ne.mpr hc]

/-- Passes that leave alone what the earlier ones have written are one pass. -/
theorem respellInTurn_eq_flatMap {passes : List (Char × Text)}
    (h : passes.Pairwise fun earlier later => later.1 ∉ earlier.2) (t : Text) :
    respellInTurn passes t = t.flatMap fun c => (passes.lookup c).getD [c] := by
  induction t with
  | nil => exact respellInTurn_of_notMem fun _ _ => List.not_mem_nil
  | cons c t ih =>
      rw [← List.singleton_append, respellInTurn_append, respellInTurn_singleton h, ih,
        List.singleton_append, List.flatMap_cons]

end Text
end PodManual
