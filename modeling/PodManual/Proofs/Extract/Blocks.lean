import Mathlib.Data.List.SplitBy
import Mathlib.Data.List.TakeWhile
import PodManual.Extract

/-!
# Blocks and paragraphs

A second account of extraction, which looks at all lines at once.  The lines from
the first instruction line on are cut into blocks, each of which starts at an
instruction line; a block that is not cut off is one instruction, and its
paragraphs are the maximal runs of lines that are not blank.

A third account reads line by line as extraction does, but keeps all instructions
in one list and adds to the end of the last one, where two marks say how.  It
would fail where there is no last entry.

Main statement: all three agree, and the marked reading never fails.
-/

namespace PodManual

/-!
## Cutting lines into blocks
-/

namespace Instruction

/-- The line starts an instruction. -/
def starts (line : Text) : Bool :=
  (ofLine? line).isSome

/-- The lines from the first instruction line on, cut into blocks that each start
at an instruction line. -/
def blocks (lines : List Text) : List (List Text) :=
  (lines.dropWhile fun line => !starts line).splitBy fun _ next => !starts next

def paragraphs (lines : List Text) : List Text :=
  ((lines.splitOnP Text.allBlank).filter fun run => !run.isEmpty).map List.flatten

/-- The instruction of a block; a block with the tag `cut` has none. -/
def ofBlock? : List Text -> Option Instruction
  | [] => none
  | first :: rest =>
      match ofLine? first with
      | none => none
      | some (element, title) =>
          if element = "cut".toList then none
          else some ⟨element, title, paragraphs rest⟩

def body (lines : List Text) : List Text :=
  lines.takeWhile fun line => !starts line

theorem starts_of_ofLine? {line : Text} {found : Text × Text}
    (h : ofLine? line = some found) : starts line = true := by
  rw [starts, h]
  rfl

theorem starts_eq_false {line : Text} :
    starts line = false <-> ofLine? line = none := by
  rw [starts, Option.isSome_eq_false_iff, Option.isNone_iff_eq_none]

theorem body_cons_of_starts {line : Text} (h : starts line = true)
    (rest : List Text) : body (line :: rest) = [] := by
  rw [body, List.takeWhile_cons_of_neg]
  simp [h]

theorem body_cons_of_other {line : Text} (h : starts line = false)
    (rest : List Text) : body (line :: rest) = line :: body rest := by
  rw [body, List.takeWhile_cons_of_pos]
  · rfl
  · simp [h]

theorem starts_of_mem_body {line : Text} {lines : List Text}
    (h : line ∈ body lines) : starts line = false := by
  have hnot := List.mem_takeWhile_imp h
  simpa using hnot

@[simp] theorem blocks_nil : blocks [] = [] := rfl

theorem blocks_cons_of_other {line : Text} (h : starts line = false)
    (rest : List Text) : blocks (line :: rest) = blocks rest := by
  rw [blocks, List.dropWhile_cons_of_pos]
  · rfl
  · simp [h]

theorem blocks_cons_of_starts {line : Text} (h : starts line = true)
    (rest : List Text) :
    blocks (line :: rest) = (line :: body rest) :: blocks rest := by
  have hwhole : blocks (line :: rest) =
      ((line :: body rest) ++ rest.dropWhile fun line => !starts line).splitBy
        fun _ next => !starts next := by
    rw [blocks, List.dropWhile_cons_of_neg (by simp [h]), List.cons_append, body,
      List.takeWhile_append_dropWhile]
  -- The relation of neighbours looks at the second one only.
  have hchain : (line :: body rest).IsChain fun _ next => (!starts next) = true := by
    apply List.Pairwise.isChain
    apply List.pairwise_cons.mpr
    constructor
    · intro next hnext
      simp [starts_of_mem_body hnext]
    · apply List.pairwise_of_forall_mem_list
      intro _ _ next hnext
      simp [starts_of_mem_body hnext]
  have hcut : forall first, first ∈ (line :: body rest).getLast? ->
      forall next, next ∈ (rest.dropWhile fun line => !starts line).head? ->
        (!starts next) = false := by
    intro _ _ next hnext
    have hnot := List.head?_dropWhile_not (fun line => !starts line) rest
    rw [Option.mem_def.mp hnext] at hnot
    exact hnot
  rw [hwhole, List.splitBy_append hcut,
    List.splitBy_of_isChain (List.cons_ne_nil _ _) hchain]
  rfl

theorem body_append_of_other {lines : List Text}
    (h : forall line, line ∈ lines -> starts line = false) (rest : List Text) :
    body (lines ++ rest) = lines ++ body rest := by
  apply List.takeWhile_append_of_pos
  intro line hline
  simp [h line hline]

theorem blocks_append_of_other {lines : List Text}
    (h : forall line, line ∈ lines -> starts line = false) (rest : List Text) :
    blocks (lines ++ rest) = blocks rest := by
  rw [blocks, List.dropWhile_append_of_pos]
  · rfl
  · intro line hline
    simp [h line hline]

theorem shape_of_mem_blocks {block lines : List Text} (h : block ∈ blocks lines) :
    exists first rest, block = first :: rest ∧ first ∈ lines ∧ starts first = true ∧
      forall line, line ∈ rest -> line ∈ lines ∧ starts line = false := by
  induction lines with
  | nil => cases h
  | cons line lines ih =>
      have hlater : block ∈ blocks lines ->
          exists first rest, block = first :: rest ∧ first ∈ line :: lines ∧
            starts first = true ∧
            forall other, other ∈ rest ->
              other ∈ line :: lines ∧ starts other = false := by
        intro hblock
        rcases ih hblock with ⟨first, rest, hshape, hfirst, hstarts, hrest⟩
        refine ⟨first, rest, hshape, List.mem_cons_of_mem _ hfirst, hstarts, ?_⟩
        intro other hother
        exact ⟨List.mem_cons_of_mem _ (hrest other hother).left, (hrest other hother).right⟩
      cases hline : starts line with
      | false =>
          rw [blocks_cons_of_other hline] at h
          exact hlater h
      | true =>
          rw [blocks_cons_of_starts hline] at h
          rcases List.mem_cons.mp h with rfl | hblock
          · refine ⟨line, body lines, rfl, List.mem_cons_self, hline, ?_⟩
            intro other hother
            constructor
            · exact List.mem_cons_of_mem _ (List.takeWhile_subset _ hother)
            · exact starts_of_mem_body hother
          · exact hlater hblock

/-!
## Paragraphs of a block
-/

@[simp] theorem paragraphs_nil : paragraphs [] = [] := by
  simp [paragraphs, List.splitOnP_nil]

/-- A blank line parts the paragraphs before it from those after it. -/
theorem paragraphs_append_blank {line : Text} (h : Text.allBlank line = true)
    (before after : List Text) :
    paragraphs (before ++ line :: after) = paragraphs before ++ paragraphs after := by
  unfold paragraphs
  rw [List.splitOnP_append_cons before after h, List.filter_append, List.map_append]

theorem paragraphs_of_unblank {lines : List Text} (hne : lines ≠ [])
    (h : forall line, line ∈ lines -> Text.allBlank line = false) :
    paragraphs lines = [lines.flatten] := by
  unfold paragraphs
  rw [List.splitOnP_eq_singleton h]
  simp [hne]

theorem unblank_of_mem_splitOnP {run lines : List Text}
    (h : run ∈ lines.splitOnP Text.allBlank) {line : Text} (hline : line ∈ run) :
    line ∈ lines ∧ Text.allBlank line = false := by
  induction lines generalizing run with
  | nil =>
      rw [List.splitOnP_nil, List.mem_singleton] at h
      rw [h] at hline
      cases hline
  | cons first rest ih =>
      rw [List.splitOnP_cons_eq_if_modifyHead] at h
      have hlater : forall {other : List Text}, other ∈ rest.splitOnP Text.allBlank ->
          line ∈ other -> line ∈ first :: rest ∧ Text.allBlank line = false := by
        intro other hother hmem
        exact ⟨List.mem_cons_of_mem _ (ih hother hmem).left, (ih hother hmem).right⟩
      split at h
      · rcases List.mem_cons.mp h with rfl | hrest
        · cases hline
        · exact hlater hrest hline
      · rename_i hfirst
        -- The first line goes to the first of the runs of the others.
        rcases List.exists_cons_of_ne_nil (List.splitOnP_ne_nil Text.allBlank rest) with
          ⟨head, tail, hruns⟩
        rw [hruns, List.modifyHead_cons] at h
        rw [hruns] at hlater
        rcases List.mem_cons.mp h with rfl | htail
        · rcases List.mem_cons.mp hline with rfl | hhead
          · exact ⟨List.mem_cons_self, Bool.eq_false_iff.mpr hfirst⟩
          · exact hlater List.mem_cons_self hhead
        · exact hlater (List.mem_cons_of_mem _ htail) hline

theorem exists_of_mem_paragraphs {t : Text} {lines : List Text}
    (h : t ∈ paragraphs lines) :
    exists run : List Text, run ≠ [] ∧ t = run.flatten ∧
      forall line, line ∈ run -> line ∈ lines ∧ Text.allBlank line = false := by
  rcases List.mem_map.mp h with ⟨run, hrun, rfl⟩
  rcases List.mem_filter.mp hrun with ⟨hsplit, hne⟩
  refine ⟨run, by simpa using hne, rfl, ?_⟩
  intro line hline
  exact unblank_of_mem_splitOnP hsplit hline

end Instruction

/-!
## Extraction cuts the lines into blocks
-/

namespace Draft

/-- No line of the unfinished paragraph is blank. -/
def Unblank (draft : Draft) : Prop :=
  forall line, line ∈ draft.unfinished -> Text.allBlank line = false

theorem unblank_new (element title : Text) : (new element title).Unblank := by
  intro line hline
  cases hline

theorem unblank_endParagraph {draft : Draft} (h : draft.Unblank) :
    draft.endParagraph.Unblank := by
  unfold endParagraph
  split
  · exact h
  · intro line hline
    cases hline

theorem unblank_addLine {draft : Draft} (h : draft.Unblank) {line : Text}
    (hline : Text.allBlank line = false) : (draft.addLine line).Unblank := by
  intro other hother
  rcases List.mem_cons.mp hother with rfl | hold
  · exact hline
  · exact h other hold

def completed (draft : Draft) (lines : List Text) : Instruction :=
  ⟨draft.element, draft.title,
    draft.finished.reverse ++
      Instruction.paragraphs (draft.unfinished.reverse ++ lines)⟩

theorem finished_endParagraph {draft : Draft} (h : draft.Unblank) :
    draft.endParagraph.finished.reverse =
      draft.finished.reverse ++ Instruction.paragraphs draft.unfinished.reverse := by
  unfold endParagraph
  cases hlines : draft.unfinished with
  | nil => simp
  | cons line lines =>
      have hunblank : forall other, other ∈ (line :: lines).reverse ->
          Text.allBlank other = false := by
        intro other hother
        apply h
        rw [hlines]
        exact List.mem_reverse.mp hother
      rw [Instruction.paragraphs_of_unblank (by simp) hunblank]
      simp

theorem unfinished_endParagraph (draft : Draft) :
    draft.endParagraph.unfinished = [] := by
  unfold endParagraph
  split
  · assumption
  · rfl

theorem element_endParagraph (draft : Draft) :
    draft.endParagraph.element = draft.element := by
  unfold endParagraph
  split <;> rfl

theorem title_endParagraph (draft : Draft) :
    draft.endParagraph.title = draft.title := by
  unfold endParagraph
  split <;> rfl

theorem toInstruction_eq_completed {draft : Draft} (h : draft.Unblank) :
    draft.toInstruction = draft.completed [] := by
  rw [toInstruction, completed, finished_endParagraph h, List.append_nil]

theorem completed_cons_blank {draft : Draft} (h : draft.Unblank) {line : Text}
    (hline : Text.allBlank line = true) (lines : List Text) :
    draft.completed (line :: lines) = draft.endParagraph.completed lines := by
  have hparted : draft.finished.reverse ++
      Instruction.paragraphs (draft.unfinished.reverse ++ line :: lines) =
        draft.endParagraph.finished.reverse ++ Instruction.paragraphs lines := by
    rw [Instruction.paragraphs_append_blank hline, finished_endParagraph h,
      List.append_assoc]
  rw [completed, completed, hparted, draft.unfinished_endParagraph,
    draft.element_endParagraph, draft.title_endParagraph]
  rfl

theorem completed_cons_unblank (draft : Draft) (line : Text) (lines : List Text) :
    draft.completed (line :: lines) = (draft.addLine line).completed lines := by
  simp [completed, addLine]

end Draft

namespace Extraction

open Instruction

/-- What a line does: it closes the open instruction and may open another one, or it
is passed over, or it belongs to the open instruction. -/
theorem step_cases (state : Extraction) (line : Text) :
    (exists title, ofLine? line = some ("cut".toList, title) ∧
      state.step line = state.close) ∨
    (exists element title, ofLine? line = some (element, title) ∧
      element ≠ "cut".toList ∧
      state.step line = ⟨state.close.complete, some (Draft.new element title)⟩) ∨
    (ofLine? line = none ∧ state.draft? = none ∧ state.step line = state) ∨
    (exists draft, ofLine? line = none ∧ state.draft? = some draft ∧
      Text.allBlank line = true ∧
      state.step line = ⟨state.complete, some draft.endParagraph⟩) ∨
    (exists draft, ofLine? line = none ∧ state.draft? = some draft ∧
      Text.allBlank line = false ∧
      state.step line = ⟨state.complete, some (draft.addLine line)⟩) := by
  cases hline : ofLine? line with
  | some found =>
      rcases found with ⟨element, title⟩
      by_cases hcut : element = "cut".toList
      · refine Or.inl ⟨title, by rw [hcut], ?_⟩
        simp only [step, hline, if_pos hcut]
      · refine Or.inr (Or.inl ⟨element, title, rfl, hcut, ?_⟩)
        simp only [step, hline, if_neg hcut]
  | none =>
      apply Or.inr
      apply Or.inr
      cases hdraft : state.draft? with
      | none =>
          refine Or.inl ⟨rfl, rfl, ?_⟩
          simp only [step, hline, hdraft]
      | some draft =>
          apply Or.inr
          cases hblank : Text.allBlank line with
          | true =>
              refine Or.inl ⟨draft, rfl, rfl, rfl, ?_⟩
              simp only [step, hline, hdraft, hblank, if_true]
          | false =>
              refine Or.inr ⟨draft, rfl, rfl, rfl, ?_⟩
              simp [step, hline, hdraft, hblank]

theorem draft?_close (state : Extraction) : state.close.draft? = none := by
  unfold close
  cases hdraft : state.draft? with
  | none => exact hdraft
  | some draft => rfl

/-- The draft of the state, if it has one, holds no blank line. -/
def Sound (state : Extraction) : Prop :=
  forall draft, state.draft? = some draft -> draft.Unblank

theorem sound_of_draft {complete : List Instruction} {draft : Draft}
    (h : draft.Unblank) : Sound ⟨complete, some draft⟩ := by
  intro other hother
  cases hother
  exact h

theorem sound_initial : initial.Sound := by
  intro draft hdraft
  cases hdraft

theorem Sound.step {state : Extraction} (h : state.Sound) (line : Text) :
    (state.step line).Sound := by
  rcases state.step_cases line with ⟨_, _, hstep⟩ | ⟨element, title, _, _, hstep⟩ |
    ⟨_, _, hstep⟩ | ⟨draft, _, hdraft, _, hstep⟩ | ⟨draft, _, hdraft, hline, hstep⟩
  all_goals rw [hstep]
  · intro draft hdraft
    rw [draft?_close] at hdraft
    cases hdraft
  · exact sound_of_draft (Draft.unblank_new element title)
  · exact h
  · exact sound_of_draft (Draft.unblank_endParagraph (h draft hdraft))
  · exact sound_of_draft (Draft.unblank_addLine (h draft hdraft) hline)

/-- What the open instruction becomes with the lines up to the next instruction
line. -/
def opened (state : Extraction) (lines : List Text) : List Instruction :=
  state.draft?.toList.map fun draft => draft.completed (body lines)

theorem opened_of_none {state : Extraction} (h : state.draft? = none)
    (lines : List Text) : state.opened lines = [] := by
  rw [opened, h]
  rfl

theorem opened_draft (complete : List Instruction) (draft : Draft)
    (lines : List Text) :
    opened ⟨complete, some draft⟩ lines = [draft.completed (body lines)] := rfl

theorem opened_of_some {state : Extraction} {draft : Draft}
    (h : state.draft? = some draft) (lines : List Text) :
    state.opened lines = [draft.completed (body lines)] := by
  rw [opened, h]
  rfl

theorem opened_cons_of_starts (state : Extraction) {line : Text}
    (h : starts line = true) (rest : List Text) :
    state.opened (line :: rest) = state.opened [] := by
  rw [opened, opened, body_cons_of_starts h]
  rfl

theorem complete_close {state : Extraction} (h : state.Sound) :
    state.close.complete.reverse = state.complete.reverse ++ state.opened [] := by
  unfold close
  cases hdraft : state.draft? with
  | none =>
      rw [opened_of_none hdraft]
      simp
  | some draft =>
      rw [opened_of_some hdraft]
      simp [Draft.toInstruction_eq_completed (h draft hdraft), body]

/-- Extraction from any state: the complete instructions, the open one with the lines
that belong to it, and one instruction for each block that is not cut off. -/
theorem instructions_foldl {state : Extraction} (h : state.Sound) (lines : List Text) :
    (lines.foldl step state).instructions =
      state.complete.reverse ++ state.opened lines ++
        (blocks lines).filterMap ofBlock? := by
  induction lines generalizing state with
  | nil =>
      rw [List.foldl_nil, instructions, complete_close h]
      simp
  | cons line rest ih =>
      rw [List.foldl_cons, ih (h.step line)]
      rcases state.step_cases line with ⟨title, hline, hstep⟩ |
        ⟨element, title, hline, hcut, hstep⟩ | ⟨hline, hdraft, hstep⟩ |
        ⟨draft, hline, hdraft, hblank, hstep⟩ | ⟨draft, hline, hdraft, hblank, hstep⟩
      · have hstarts := starts_of_ofLine? hline
        rw [hstep, blocks_cons_of_starts hstarts, state.opened_cons_of_starts hstarts,
          complete_close h, opened_of_none state.draft?_close]
        simp [ofBlock?, hline]
      · have hstarts := starts_of_ofLine? hline
        rw [hstep, blocks_cons_of_starts hstarts, state.opened_cons_of_starts hstarts,
          complete_close h, opened_draft]
        simp only [List.filterMap_cons, ofBlock?, hline, if_neg hcut]
        simp [Draft.completed, Draft.new]
      · have hother := starts_eq_false.mpr hline
        rw [hstep, blocks_cons_of_other hother, opened_of_none hdraft,
          opened_of_none hdraft]
      · have hother := starts_eq_false.mpr hline
        rw [hstep, blocks_cons_of_other hother, opened_of_some hdraft, opened_draft,
          body_cons_of_other hother,
          Draft.completed_cons_blank (h draft hdraft) hblank]
      · have hother := starts_eq_false.mpr hline
        rw [hstep, blocks_cons_of_other hother, opened_of_some hdraft, opened_draft,
          body_cons_of_other hother, Draft.completed_cons_unblank]

end Extraction

theorem Language.extract_eq_filterMap (language : Language) (lines : List Text) :
    language.extract lines =
      (Instruction.blocks (lines.map language.stripLeadIn)).filterMap
        Instruction.ofBlock? := by
  rw [extract, Extraction.instructions_foldl Extraction.sound_initial]
  rfl

/-!
## Reading with marks
-/

/-- Change the last entry of a list; there has to be one. -/
def changeLast? {α : Type} (change : α -> Option α) (entries : List α) :
    Option (List α) :=
  match entries.getLast? with
  | none => none
  | some last => (change last).map fun changed => entries.dropLast ++ [changed]

theorem changeLast?_concat {α : Type} (change : α -> Option α) (entries : List α)
    (last : α) :
    changeLast? change (entries ++ [last]) =
      (change last).map fun changed => entries ++ [changed] := by
  rw [changeLast?, List.getLast?_concat, List.dropLast_concat]

/-- A reading that keeps its instructions in one list.  The first mark says that the
documentation is open, the second that the next line begins a paragraph. -/
structure Marked where
  instructions : List Instruction
  inside : Bool
  fresh : Bool

namespace Marked

def initial : Marked :=
  ⟨[], false, false⟩

def beginParagraph (line : Text) (inst : Instruction) : Instruction :=
  { inst with content := inst.content ++ [line] }

/-- Go on with the last paragraph of an instruction; there has to be one. -/
def continueParagraph? (line : Text) (inst : Instruction) : Option Instruction :=
  (changeLast? (fun paragraph => some (paragraph ++ line)) inst.content).map
    fun content => { inst with content := content }

def step? (state : Marked) (line : Text) : Option Marked :=
  match Instruction.ofLine? line with
  | some (element, title) =>
      if element = "cut".toList then some { state with inside := false }
      else some ⟨state.instructions ++ [⟨element, title, []⟩], true, true⟩
  | none =>
      if state.inside && Text.allBlank line then some { state with fresh := true }
      else if state.inside && state.fresh then
        (changeLast? (fun inst => some (beginParagraph line inst)) state.instructions).map
          fun instructions => ⟨instructions, true, false⟩
      else if state.inside then
        (changeLast? (continueParagraph? line) state.instructions).map
          fun instructions => ⟨instructions, true, false⟩
      else some state

def read? (lines : List Text) : Option (List Instruction) :=
  (lines.foldlM step? initial).map Marked.instructions

/-!
## The marked reading follows extraction
-/

/-- The marked state holds the instructions of the other one, and its marks say
whether an instruction is open and whether its paragraph has lines. -/
structure Mirrors (state : Extraction) (marked : Marked) : Prop where
  instructions_eq : marked.instructions = state.instructions
  inside_eq : marked.inside = state.draft?.isSome
  fresh_eq : forall draft, state.draft? = some draft ->
    marked.fresh = draft.unfinished.isEmpty

theorem mirrors_initial : Mirrors Extraction.initial initial := by
  constructor
  · rfl
  · rfl
  · intro draft hdraft
    cases hdraft

end Marked

namespace Draft

theorem endParagraph_of_nil {draft : Draft} (h : draft.unfinished = []) :
    draft.endParagraph = draft := by
  simp only [endParagraph, h]

theorem toInstruction_endParagraph (draft : Draft) :
    draft.endParagraph.toInstruction = draft.toInstruction := by
  rw [toInstruction, toInstruction, endParagraph_of_nil draft.unfinished_endParagraph,
    draft.element_endParagraph, draft.title_endParagraph]

theorem toInstruction_addLine_fresh {draft : Draft} (h : draft.unfinished = [])
    (line : Text) :
    (draft.addLine line).toInstruction =
      Marked.beginParagraph line draft.toInstruction := by
  simp [toInstruction, addLine, endParagraph, Marked.beginParagraph, h]

theorem toInstruction_addLine_unfinished {draft : Draft} (h : draft.unfinished ≠ [])
    (line : Text) :
    Marked.continueParagraph? line draft.toInstruction =
      some (draft.addLine line).toInstruction := by
  cases hlines : draft.unfinished with
  | nil => exact absurd hlines h
  | cons last lines =>
      simp [toInstruction, addLine, endParagraph, Marked.continueParagraph?, hlines,
        changeLast?_concat]

end Draft

namespace Extraction

theorem instructions_of_none {state : Extraction} (h : state.draft? = none) :
    state.instructions = state.complete.reverse := by
  simp only [instructions, close, h]

theorem instructions_of_some {state : Extraction} {draft : Draft}
    (h : state.draft? = some draft) :
    state.instructions = state.complete.reverse ++ [draft.toInstruction] := by
  simp only [instructions, close, h, List.reverse_cons]

end Extraction

namespace Marked

open Instruction

/-- Each line keeps the two readings together, and the marked one reads it. -/
theorem Mirrors.step {state : Extraction} {marked : Marked} (h : Mirrors state marked)
    (line : Text) :
    exists next, marked.step? line = some next ∧ Mirrors (state.step line) next := by
  rcases state.step_cases line with ⟨title, hline, hstep⟩ |
    ⟨element, title, hline, hcut, hstep⟩ | ⟨hline, hdraft, hstep⟩ |
    ⟨draft, hline, hdraft, hblank, hstep⟩ | ⟨draft, hline, hdraft, hblank, hstep⟩
  all_goals rw [hstep]
  · refine ⟨{ marked with inside := false }, by simp [step?, hline], ?_⟩
    constructor
    · rw [h.instructions_eq, Extraction.instructions,
        Extraction.instructions_of_none state.draft?_close]
    · rw [state.draft?_close]
      rfl
    · intro draft hdraft
      rw [state.draft?_close] at hdraft
      cases hdraft
  · refine ⟨⟨marked.instructions ++ [⟨element, title, []⟩], true, true⟩, ?_, ?_⟩
    · simp only [step?, hline, if_neg hcut]
    · constructor
      · rw [h.instructions_eq, Extraction.instructions,
          Extraction.instructions_of_some rfl]
        rfl
      · rfl
      · intro draft hdraft
        cases hdraft
        rfl
  · have houtside : marked.inside = false := by
      rw [h.inside_eq, hdraft]
      rfl
    exact ⟨marked, by simp [step?, hline, houtside], h⟩
  · have hinside : marked.inside = true := by
      rw [h.inside_eq, hdraft]
      rfl
    refine ⟨{ marked with fresh := true }, by simp [step?, hline, hinside, hblank], ?_⟩
    constructor
    · rw [h.instructions_eq, Extraction.instructions_of_some hdraft,
        Extraction.instructions_of_some rfl, draft.toInstruction_endParagraph]
    · exact hinside
    · intro other hother
      cases hother
      rw [draft.unfinished_endParagraph]
      rfl
  · have hinside : marked.inside = true := by
      rw [h.inside_eq, hdraft]
      rfl
    have hfresh := h.fresh_eq draft hdraft
    have hinstructions : marked.instructions =
        state.complete.reverse ++ [draft.toInstruction] := by
      rw [h.instructions_eq, Extraction.instructions_of_some hdraft]
    refine ⟨⟨state.complete.reverse ++ [(draft.addLine line).toInstruction], true, false⟩,
      ?_, ?_⟩
    · -- The second mark is on exactly when the paragraph has no line yet.
      by_cases hlines : draft.unfinished = []
      · rw [Draft.toInstruction_addLine_fresh hlines]
        simp [step?, hline, hinside, hblank, hfresh, hlines, hinstructions,
          changeLast?_concat]
      · simp [step?, hline, hinside, hblank, hfresh, hlines, hinstructions,
          changeLast?_concat, Draft.toInstruction_addLine_unfinished hlines]
    · constructor
      · rw [Extraction.instructions_of_some rfl]
      · rfl
      · intro other hother
        cases hother
        rfl

theorem Mirrors.foldlM {state : Extraction} {marked : Marked} (h : Mirrors state marked)
    (lines : List Text) :
    exists last, lines.foldlM step? marked = some last ∧
      Mirrors (lines.foldl Extraction.step state) last := by
  induction lines generalizing state marked with
  | nil => exact ⟨marked, rfl, h⟩
  | cons line rest ih =>
      rcases h.step line with ⟨next, hnext, hmirrors⟩
      rcases ih hmirrors with ⟨last, hlast, hend⟩
      refine ⟨last, ?_, hend⟩
      rw [List.foldlM_cons, hnext]
      exact hlast

theorem read?_eq_some (language : Language) (lines : List Text) :
    read? (lines.map language.stripLeadIn) = some (language.extract lines) := by
  rcases mirrors_initial.foldlM (lines.map language.stripLeadIn) with
    ⟨last, hlast, hmirrors⟩
  rw [read?, hlast, Language.extract, ← hmirrors.instructions_eq]
  rfl

end Marked

/-- Reading line by line with marks never fails and gives what extraction gives.  That
is one instruction for each block, unless its tag is `cut`; and every block starts at
an instruction line and has no other one. -/
theorem Language.extract_reads_blocks (language : Language) (lines : List Text) :
    Marked.read? (lines.map language.stripLeadIn) = some (language.extract lines) ∧
    language.extract lines =
      (Instruction.blocks (lines.map language.stripLeadIn)).filterMap
        Instruction.ofBlock? ∧
    forall block, block ∈ Instruction.blocks (lines.map language.stripLeadIn) ->
      exists first rest, block = first :: rest ∧
        (Instruction.ofLine? first).isSome = true ∧
        forall line, line ∈ rest -> Instruction.ofLine? line = none := by
  refine ⟨Marked.read?_eq_some language lines, language.extract_eq_filterMap lines, ?_⟩
  intro block hblock
  rcases Instruction.shape_of_mem_blocks hblock with
    ⟨first, rest, hshape, _, hstarts, hrest⟩
  refine ⟨first, rest, hshape, hstarts, ?_⟩
  intro line hline
  exact Instruction.starts_eq_false.mp (hrest line hline).right

end PodManual
