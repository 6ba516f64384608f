import PodManual.Proofs.Extract.Blocks

/-!
# Reading on

After any lines, extraction is in a state that the lines to come can change in one place
only: the instruction that is open takes the lines before the next instruction line.
Everything complete stays as it is, and everything later is read as if the file began
there.

Main statement: the instructions of two lists of lines put together are those of the
first list, the last one perhaps with more content, and then those of the second.
-/

namespace PodManual

namespace Instruction

/-- Content that goes on: its last paragraph may become longer, and paragraphs may
follow. -/
inductive ContentGrows : List Text -> List Text -> Prop
  | further (content more : List Text) : ContentGrows content (content ++ more)
  | longer (front : List Text) (last tail : Text) (more : List Text) :
      ContentGrows (front ++ [last]) (front ++ (last ++ tail) :: more)

/-- The instruction is another one whose content went on. -/
structure Extends (whole part : Instruction) : Prop where
  element_eq : whole.element = part.element
  title_eq : whole.title = part.title
  content_grows : ContentGrows part.content whole.content

/-- The instructions are others of which at most the last one went on. -/
inductive GoesOn : List Instruction -> List Instruction -> Prop
  | same (instructions : List Instruction) : GoesOn instructions instructions
  | last (front : List Instruction) {part whole : Instruction} :
      whole.Extends part -> GoesOn (front ++ [part]) (front ++ [whole])

theorem Extends.refl (inst : Instruction) : inst.Extends inst := by
  constructor
  · rfl
  · rfl
  · have hgrows := ContentGrows.further inst.content []
    rwa [List.append_nil] at hgrows

theorem ContentGrows.append_left {part whole : List Text} (h : ContentGrows part whole)
    (before : List Text) : ContentGrows (before ++ part) (before ++ whole) := by
  cases h with
  | further content more =>
      rw [← List.append_assoc]
      exact ContentGrows.further _ _
  | longer front last tail more =>
      rw [← List.append_assoc, ← List.append_assoc]
      exact ContentGrows.longer _ _ _ _

theorem GoesOn.getElem? {before after : List Instruction} (h : GoesOn before after)
    {place : Nat} {part : Instruction} (hpart : before[place]? = some part) :
    exists whole, after[place]? = some whole ∧ whole.Extends part ∧
      (place + 1 < before.length -> whole = part) := by
  cases h with
  | same instructions => exact ⟨part, hpart, Extends.refl part, fun _ => rfl⟩
  | @last front old new hextends =>
      by_cases hplace : place < front.length
      · rw [List.getElem?_append_left hplace] at hpart
        refine ⟨part, ?_, Extends.refl part, fun _ => rfl⟩
        rw [List.getElem?_append_left hplace, hpart]
      · have hbound := (List.getElem?_eq_some_iff.mp hpart).1
        rw [List.length_append, List.length_singleton] at hbound
        have hlast : place = front.length := by omega
        rw [hlast, List.getElem?_concat_length] at hpart
        cases hpart
        refine ⟨new, ?_, hextends, ?_⟩
        · rw [hlast, List.getElem?_concat_length]
        · rw [List.length_append, List.length_singleton]
          omega

/-!
## Content of the open instruction
-/

/-- Lines that are not blank begin the first paragraph, whatever comes after them. -/
theorem exists_paragraphs_append {lines : List Text} (hne : lines ≠ [])
    (h : forall line, line ∈ lines -> Text.allBlank line = false) (rest : List Text) :
    exists tail more, paragraphs (lines ++ rest) = (lines.flatten ++ tail) :: more := by
  induction rest generalizing lines with
  | nil =>
      refine ⟨[], [], ?_⟩
      rw [List.append_nil, List.append_nil, paragraphs_of_unblank hne h]
  | cons line rest ih =>
      cases hline : Text.allBlank line with
      | true =>
          refine ⟨[], paragraphs rest, ?_⟩
          rw [paragraphs_append_blank hline, paragraphs_of_unblank hne h, List.append_nil]
          rfl
      | false =>
          have hall : forall other, other ∈ lines ++ [line] -> Text.allBlank other = false := by
            intro other hother
            rcases List.mem_append.mp hother with hmem | hmem
            · exact h other hmem
            · rw [List.mem_singleton.mp hmem]
              exact hline
          rcases ih (by simp) hall with ⟨tail, more, hrest⟩
          refine ⟨line ++ tail, more, ?_⟩
          rw [List.append_cons, hrest, List.flatten_append, List.flatten_singleton,
            List.append_assoc]

end Instruction

namespace Draft

theorem completed_extends {draft : Draft} (h : draft.Unblank) (lines : List Text) :
    (draft.completed lines).Extends (draft.completed []) := by
  constructor
  · rfl
  · rfl
  · apply Instruction.ContentGrows.append_left
    rw [List.append_nil]
    by_cases hlines : draft.unfinished = []
    · -- No paragraph is open, so all that comes makes paragraphs of its own.
      rw [hlines, List.reverse_nil, Instruction.paragraphs_nil]
      exact Instruction.ContentGrows.further [] _
    · have hne : draft.unfinished.reverse ≠ [] := by simpa using hlines
      have hunblank : forall line, line ∈ draft.unfinished.reverse ->
          Text.allBlank line = false := by
        intro line hline
        exact h line (List.mem_reverse.mp hline)
      rcases Instruction.exists_paragraphs_append hne hunblank lines with
        ⟨tail, more, hwhole⟩
      rw [hwhole, Instruction.paragraphs_of_unblank hne hunblank]
      exact Instruction.ContentGrows.longer [] _ tail more

end Draft

/-!
## Extraction from the state between two lists of lines
-/

namespace Extraction

open Instruction

theorem Sound.foldl {state : Extraction} (h : state.Sound) (lines : List Text) :
    (lines.foldl Extraction.step state).Sound := by
  induction lines generalizing state with
  | nil => exact h
  | cons line rest ih => exact ih (h.step line)

theorem goesOn_opened {state : Extraction} (h : state.Sound) (before : List Instruction)
    (lines : List Text) :
    GoesOn (before ++ state.opened []) (before ++ state.opened lines) := by
  cases hdraft : state.draft? with
  | none =>
      rw [opened_of_none hdraft, opened_of_none hdraft]
      exact GoesOn.same _
  | some draft =>
      rw [opened_of_some hdraft, opened_of_some hdraft]
      exact GoesOn.last before (Draft.completed_extends (h draft hdraft) (body lines))

theorem opened_of_head {state : Extraction} {lines : List Text}
    (h : forall line, line ∈ lines.head? -> starts line = true) :
    state.opened lines = state.opened [] := by
  cases lines with
  | nil => rfl
  | cons line rest => exact state.opened_cons_of_starts (h line rfl) rest

end Extraction

namespace Language

open Extraction Instruction

def stateAfter (language : Language) (lines : List Text) : Extraction :=
  (lines.map language.stripLeadIn).foldl Extraction.step Extraction.initial

theorem sound_stateAfter (language : Language) (lines : List Text) :
    (language.stateAfter lines).Sound :=
  Sound.foldl sound_initial _

theorem extract_eq_opened (language : Language) (lines : List Text) :
    language.extract lines =
      (language.stateAfter lines).complete.reverse ++ (language.stateAfter lines).opened [] :=
  complete_close (language.sound_stateAfter lines)

theorem extract_append_eq_opened (language : Language) (first second : List Text) :
    language.extract (first ++ second) =
      (language.stateAfter first).complete.reverse ++
        (language.stateAfter first).opened (second.map language.stripLeadIn) ++
          language.extract second := by
  rw [extract, List.map_append, List.foldl_append, ← stateAfter,
    instructions_foldl (language.sound_stateAfter first), ← extract_eq_filterMap]

/-- Extraction reads on.  Lines that begin with an instruction line are read as if they
stood alone; any others may add content to the last instruction before them.  So a file
that breaks off after some of its lines shows nothing that the whole file does not. -/
theorem extract_append (language : Language) (first second : List Text) :
    ((forall line, line ∈ second.head? ->
        (Instruction.ofLine? (language.stripLeadIn line)).isSome = true) ->
      language.extract (first ++ second) =
        language.extract first ++ language.extract second) ∧
    (exists whole, GoesOn (language.extract first) whole ∧
      language.extract (first ++ second) = whole ++ language.extract second) ∧
    forall (place : Nat) (part : Instruction),
      (language.extract first)[place]? = some part ->
      exists whole, (language.extract (first ++ second))[place]? = some whole ∧
        whole.Extends part ∧
        (place + 1 < (language.extract first).length -> whole = part) := by
  have hgoesOn := goesOn_opened (language.sound_stateAfter first)
    (language.stateAfter first).complete.reverse (second.map language.stripLeadIn)
  rw [← language.extract_eq_opened] at hgoesOn
  refine ⟨?_, ⟨_, hgoesOn, language.extract_append_eq_opened first second⟩, ?_⟩
  · intro hhead
    have hstarts : forall line, line ∈ (second.map language.stripLeadIn).head? ->
        starts line = true := by
      intro line hline
      rw [List.head?_map] at hline
      rcases Option.map_eq_some_iff.mp hline with ⟨raw, hraw, rfl⟩
      exact hhead raw hraw
    rw [language.extract_append_eq_opened, opened_of_head hstarts,
      ← language.extract_eq_opened]
  · intro place part hpart
    rcases hgoesOn.getElem? hpart with ⟨whole, hwhole, hextends, hsame⟩
    refine ⟨whole, ?_, hextends, hsame⟩
    have hbound := (List.getElem?_eq_some_iff.mp hwhole).1
    rw [language.extract_append_eq_opened, List.getElem?_append_left hbound, hwhole]

def brokenOff : List Text :=
  ["=head1 NAME\n".toList, "=item Widget\n".toList, "shown by\n".toList]

def otherHalf : List Text :=
  ["the page\n".toList, "=item Gadget\n".toList]

theorem extract_brokenOff_append :
    ((forall line, line ∈ otherHalf.tail.head? ->
        (Instruction.ofLine? (perl.stripLeadIn line)).isSome = true) ∧
      perl.extract (brokenOff ++ otherHalf.tail) =
        perl.extract brokenOff ++ perl.extract otherHalf.tail) ∧
    (perl.extract brokenOff)[1]? =
      some ⟨"item".toList, "Widget".toList, ["shown by\n".toList]⟩ ∧
    exists whole, (perl.extract (brokenOff ++ otherHalf))[1]? = some whole ∧
      whole.Extends ⟨"item".toList, "Widget".toList, ["shown by\n".toList]⟩ := by
  have hhead : forall line, line ∈ otherHalf.tail.head? ->
      (Instruction.ofLine? (perl.stripLeadIn line)).isSome = true := by
    decide +kernel
  have hpart : (perl.extract brokenOff)[1]? =
      some ⟨"item".toList, "Widget".toList, ["shown by\n".toList]⟩ := by
    decide +kernel
  rcases perl.extract_append brokenOff otherHalf with ⟨_, _, hplaces⟩
  rcases hplaces 1 _ hpart with ⟨whole, hwhole, hextends, _⟩
  refine ⟨⟨hhead, ?_⟩, hpart, whole, hwhole, hextends⟩
  exact (perl.extract_append brokenOff otherHalf.tail).left hhead

end Language
end PodManual
