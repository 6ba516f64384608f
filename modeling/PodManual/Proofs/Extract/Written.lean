import Mathlib.Tactic.MkIffOfInductiveProp
import PodManual.Proofs.Extract.Blocks
import PodManual.Proofs.Text.Line

/-!
# Writing instructions

Instructions can be written as lines of a source file, each line after a mark that
leads in a comment.  An instruction is well formed if its tag is a word other than
`cut`, its title fits on its line, and its paragraphs consist of lines that extraction
takes for text.

Main statement: extraction gives well-formed instructions back when they have been
written, and what it gives for lines that end in their only line feed is well formed.
-/

namespace PodManual

namespace Language

/-- The mark leads in a comment; in a language without marks, nothing does. -/
def LeadsIn (language : Language) (mark : Text) : Prop :=
  mark ∈ language.leadIns ∨ (language.leadIns = [] ∧ mark = [])

theorem newline_notMem_leadIn {language : Language} {mark : Text}
    (h : mark ∈ language.leadIns) : '\n' ∉ mark := by
  cases language with
  | plain => cases h
  | perl => cases h
  | php =>
      simp only [leadIns, List.mem_cons, List.not_mem_nil, or_false] at h
      rcases h with rfl | rfl | rfl <;> decide
  | js =>
      simp only [leadIns, List.mem_cons, List.not_mem_nil, or_false] at h
      rcases h with rfl | rfl <;> decide

theorem LeadsIn.newline_notMem {language : Language} {mark : Text}
    (h : language.LeadsIn mark) : '\n' ∉ mark := by
  rcases h with hmark | ⟨_, rfl⟩
  · exact newline_notMem_leadIn hmark
  · exact List.not_mem_nil

/-- No mark is the beginning of another one, so the mark of a line is taken off
whatever follows it. -/
theorem LeadsIn.stripLeadIn_append {language : Language} {mark : Text}
    (h : language.LeadsIn mark) (line : Text) :
    language.stripLeadIn (mark ++ line) = line := by
  rcases h with hmark | ⟨hnone, rfl⟩
  · cases language with
    | plain => cases hmark
    | perl => cases hmark
    | php =>
        simp only [leadIns, List.mem_cons, List.not_mem_nil, or_false] at hmark
        rcases hmark with rfl | rfl | rfl <;> rfl
    | js =>
        simp only [leadIns, List.mem_cons, List.not_mem_nil, or_false] at hmark
        rcases hmark with rfl | rfl <;> rfl
  · rw [stripLeadIn, hnone]
    rfl

theorem isLine_stripLeadIn (language : Language) {line : Text} (h : Text.IsLine line) :
    Text.IsLine (language.stripLeadIn line) := by
  unfold stripLeadIn
  cases hfound : language.leadIns.findSome? fun mark => Text.after? mark line with
  | none => exact h
  | some rest =>
      rcases List.exists_of_findSome?_eq_some hfound with ⟨mark, hmark, hafter⟩
      rw [Text.eq_append_of_after? hafter] at h
      exact Text.isLine_of_append (newline_notMem_leadIn hmark) h

end Language

namespace Instruction

/-!
## Well-formed instructions
-/

/-- The text is made of one line or more, none of which is blank or starts an
instruction. -/
def IsParagraph (t : Text) : Prop :=
  exists lines : List Text, lines ≠ [] ∧ t = lines.flatten ∧
    forall line, line ∈ lines ->
      Text.IsLine line ∧ Text.allBlank line = false ∧ ofLine? line = none

theorem isParagraph_iff {t : Text} :
    IsParagraph t <-> Text.lines t ≠ [] ∧
      forall line, line ∈ Text.lines t ->
        Text.IsLine line ∧ Text.allBlank line = false ∧ ofLine? line = none := by
  constructor
  · rintro ⟨lines, hne, rfl, hlines⟩
    rw [Text.lines_flatten fun line hline => (hlines line hline).left]
    exact ⟨hne, hlines⟩
  · rintro ⟨hne, hlines⟩
    exact ⟨Text.lines t, hne, (Text.flatten_lines t).symm, hlines⟩

instance (t : Text) : Decidable (IsParagraph t) :=
  decidable_of_iff _ isParagraph_iff.symm

/-- The instruction can be written and read again. -/
@[mk_iff] structure WellFormed (inst : Instruction) : Prop where
  element_ne_nil : inst.element ≠ []
  element_isWord : inst.element.all Text.isWord = true
  element_ne_cut : inst.element ≠ "cut".toList
  title_oneLine : '\n' ∉ inst.title
  title_trimmed : Text.Trimmed inst.title
  content_isParagraph : forall paragraph, paragraph ∈ inst.content ->
    IsParagraph paragraph

instance (inst : Instruction) : Decidable inst.WellFormed :=
  decidable_of_iff _ (wellFormed_iff inst).symm

def titleLine (inst : Instruction) : Text :=
  '=' :: (inst.element ++ ' ' :: (inst.title ++ ['\n']))

def contentLines (content : List Text) : List Text :=
  List.intercalate [['\n']] (content.map Text.lines)

def unmarked (instructions : List Instruction) : List Text :=
  instructions.flatMap fun inst => inst.titleLine :: contentLines inst.content

def write (mark : Text) (instructions : List Instruction) : List Text :=
  (unmarked instructions).map fun line => mark ++ line

/-!
## Instruction lines
-/

theorem isWord_space : Text.isWord ' ' = false := by
  decide +kernel

theorem isWord_newline : Text.isWord '\n' = false := by
  decide +kernel

theorem ofLine?_eq_some {line tag title : Text} :
    ofLine? line = some (tag, title) <->
      exists rest, line = '=' :: rest ∧ rest.takeWhile Text.isWord = tag ∧
        Text.strip (rest.dropWhile Text.isWord) = title ∧ tag ≠ [] ∧ '\n' ∉ title := by
  constructor
  · intro h
    unfold ofLine? at h
    split at h
    · rename_i rest
      simp only [List.contains_iff_mem] at h
      split at h
      · cases h
      · rename_i htag
        split at h
        · cases h
        · rename_i htitle
          cases h
          exact ⟨rest, rfl, rfl, rfl, htag, htitle⟩
    · cases h
  · rintro ⟨rest, rfl, rfl, rfl, htag, htitle⟩
    simp only [ofLine?, List.contains_iff_mem, if_neg htag, if_neg htitle]

theorem ofLine?_titleLine {inst : Instruction} (h : inst.WellFormed) :
    ofLine? inst.titleLine = some (inst.element, inst.title) := by
  have helement := List.all_eq_true.mp h.element_isWord
  have hword : (inst.element ++ ' ' :: (inst.title ++ ['\n'])).takeWhile Text.isWord =
      inst.element := by
    rw [List.takeWhile_append_of_pos helement,
      List.takeWhile_cons_of_neg (by simp [isWord_space]), List.append_nil]
  have hrest : (inst.element ++ ' ' :: (inst.title ++ ['\n'])).dropWhile Text.isWord =
      ' ' :: (inst.title ++ ['\n']) := by
    rw [List.dropWhile_append_of_pos helement,
      List.dropWhile_cons_of_neg (by simp [isWord_space])]
  have hstrip : Text.strip ([' '] ++ (inst.title ++ ['\n'])) = inst.title :=
    Text.strip_surrounded rfl rfl h.title_trimmed
  apply ofLine?_eq_some.mpr
  refine ⟨_, rfl, hword, ?_, h.element_ne_nil, h.title_oneLine⟩
  rw [hrest]
  exact hstrip

theorem isLine_titleLine {inst : Instruction} (h : inst.WellFormed) :
    Text.IsLine inst.titleLine := by
  have helement : '\n' ∉ inst.element := by
    intro hmem
    have hnewline := List.all_eq_true.mp h.element_isWord _ hmem
    rw [isWord_newline] at hnewline
    cases hnewline
  refine ⟨'=' :: (inst.element ++ ' ' :: inst.title), by simp [titleLine], ?_⟩
  simp [helement, h.title_oneLine]

/-!
## Written instructions are read again
-/

theorem contentLines_cons_cons (paragraph next : Text) (rest : List Text) :
    contentLines (paragraph :: next :: rest) =
      Text.lines paragraph ++ ['\n'] :: contentLines (next :: rest) := by
  rw [contentLines, List.map_cons, List.map_cons, List.intercalate_cons_cons,
    List.append_assoc]
  rfl

/-- The lines of paragraphs and the lines between them start nothing. -/
theorem contentLines_spec {content : List Text}
    (h : forall paragraph, paragraph ∈ content -> IsParagraph paragraph) {line : Text}
    (hline : line ∈ contentLines content) :
    Text.IsLine line ∧ ofLine? line = none := by
  induction content with
  | nil => cases hline
  | cons paragraph rest ih =>
      have hown : line ∈ Text.lines paragraph ->
          Text.IsLine line ∧ ofLine? line = none := by
        intro hmem
        rcases (isParagraph_iff.mp (h paragraph List.mem_cons_self)).right line hmem with
          ⟨hisLine, _, hstarts⟩
        exact ⟨hisLine, hstarts⟩
      cases rest with
      | nil =>
          rw [contentLines, List.map_singleton, List.intercalate_singleton] at hline
          exact hown hline
      | cons next rest =>
          rw [contentLines_cons_cons] at hline
          rcases List.mem_append.mp hline with hmem | hmem
          · exact hown hmem
          · rcases List.mem_cons.mp hmem with rfl | hlater
            · exact ⟨⟨[], rfl, List.not_mem_nil⟩, rfl⟩
            · exact ih (fun other hother => h other (List.mem_cons_of_mem _ hother)) hlater

theorem paragraphs_contentLines {content : List Text}
    (h : forall paragraph, paragraph ∈ content -> IsParagraph paragraph) :
    paragraphs (contentLines content) = content := by
  induction content with
  | nil => exact paragraphs_nil
  | cons paragraph rest ih =>
      have hown : paragraphs (Text.lines paragraph) = [paragraph] := by
        rcases isParagraph_iff.mp (h paragraph List.mem_cons_self) with ⟨hne, hlines⟩
        rw [paragraphs_of_unblank hne fun line hline => (hlines line hline).right.left,
          Text.flatten_lines]
      cases rest with
      | nil =>
          rw [contentLines, List.map_singleton, List.intercalate_singleton]
          exact hown
      | cons next rest =>
          rw [contentLines_cons_cons, paragraphs_append_blank rfl, hown,
            ih fun other hother => h other (List.mem_cons_of_mem _ hother)]
          rfl

theorem body_unmarked {instructions : List Instruction}
    (h : forall inst, inst ∈ instructions -> inst.WellFormed) :
    body (unmarked instructions) = [] := by
  cases instructions with
  | nil => rfl
  | cons inst rest =>
      rw [unmarked, List.flatMap_cons, List.cons_append]
      exact body_cons_of_starts
        (starts_of_ofLine? (ofLine?_titleLine (h inst List.mem_cons_self))) _

theorem filterMap_blocks_unmarked {instructions : List Instruction}
    (h : forall inst, inst ∈ instructions -> inst.WellFormed) :
    (blocks (unmarked instructions)).filterMap ofBlock? = instructions := by
  induction instructions with
  | nil => rfl
  | cons inst rest ih =>
      have hinst := h inst List.mem_cons_self
      have hrest : forall other, other ∈ rest -> other.WellFormed := by
        intro other hother
        exact h other (List.mem_cons_of_mem _ hother)
      have htitle := ofLine?_titleLine hinst
      have hcontent : forall line, line ∈ contentLines inst.content ->
          starts line = false := by
        intro line hline
        exact starts_eq_false.mpr
          (contentLines_spec hinst.content_isParagraph hline).right
      have hblock : ofBlock? (inst.titleLine :: contentLines inst.content) = some inst := by
        simp only [ofBlock?, htitle, if_neg hinst.element_ne_cut,
          paragraphs_contentLines hinst.content_isParagraph]
      have hlines : unmarked (inst :: rest) =
          inst.titleLine :: (contentLines inst.content ++ unmarked rest) := by
        rw [unmarked, List.flatMap_cons]
        rfl
      rw [hlines, blocks_cons_of_starts (starts_of_ofLine? htitle),
        body_append_of_other hcontent, blocks_append_of_other hcontent,
        body_unmarked hrest, List.append_nil, List.filterMap_cons, hblock, ih hrest]

/-!
## What is read is well formed
-/

theorem wellFormed_of_ofBlock? {block : List Text} {inst : Instruction}
    (hlines : forall line, line ∈ block.tail ->
      Text.IsLine line ∧ ofLine? line = none)
    (h : ofBlock? block = some inst) : inst.WellFormed := by
  cases block with
  | nil => cases h
  | cons first rest =>
      cases hfirst : ofLine? first with
      | none => simp [ofBlock?, hfirst] at h
      | some found =>
          rcases found with ⟨element, title⟩
          by_cases hcut : element = "cut".toList
          · simp [ofBlock?, hfirst, hcut] at h
          · simp only [ofBlock?, hfirst, if_neg hcut] at h
            cases h
            rcases ofLine?_eq_some.mp hfirst with
              ⟨after, _, htag, hstrip, hne, htitle⟩
            constructor
            · exact hne
            · apply List.all_eq_true.mpr
              intro c hc
              rw [← htag] at hc
              exact List.mem_takeWhile_imp hc
            · exact hcut
            · exact htitle
            · rw [← hstrip]
              exact Text.trimmed_strip _
            · intro paragraph hparagraph
              rcases exists_of_mem_paragraphs hparagraph with ⟨run, hrun, rfl, hunblank⟩
              refine ⟨run, hrun, rfl, ?_⟩
              intro line hline
              rcases hunblank line hline with ⟨hmem, hblank⟩
              rcases hlines line hmem with ⟨hisLine, hstarts⟩
              exact ⟨hisLine, hblank, hstarts⟩

end Instruction

namespace Language

open Instruction

theorem extract_write {language : Language} {mark : Text} (hmark : language.LeadsIn mark)
    {instructions : List Instruction}
    (h : forall inst, inst ∈ instructions -> inst.WellFormed) :
    language.extract (write mark instructions) = instructions := by
  have hstrip : (write mark instructions).map language.stripLeadIn =
      unmarked instructions := by
    rw [write, List.map_map]
    apply List.map_id''
    intro line
    exact hmark.stripLeadIn_append line
  rw [language.extract_eq_filterMap, hstrip, filterMap_blocks_unmarked h]

theorem isLine_of_mem_write {language : Language} {mark : Text}
    (hmark : language.LeadsIn mark) {instructions : List Instruction}
    (h : forall inst, inst ∈ instructions -> inst.WellFormed) {line : Text}
    (hline : line ∈ write mark instructions) : Text.IsLine line := by
  rcases List.mem_map.mp hline with ⟨rest, hrest, rfl⟩
  apply Text.isLine_append hmark.newline_notMem
  rcases List.mem_flatMap.mp hrest with ⟨inst, hinst, hmem⟩
  rcases List.mem_cons.mp hmem with rfl | hcontent
  · exact isLine_titleLine (h inst hinst)
  · exact (contentLines_spec (h inst hinst).content_isParagraph hcontent).left

theorem wellFormed_of_mem_extract {language : Language} {lines : List Text}
    (h : forall line, line ∈ lines -> Text.IsLine line) {inst : Instruction}
    (hinst : inst ∈ language.extract lines) : inst.WellFormed := by
  rw [language.extract_eq_filterMap] at hinst
  rcases List.mem_filterMap.mp hinst with ⟨block, hblock, hread⟩
  rcases shape_of_mem_blocks hblock with ⟨first, rest, rfl, _, _, hrest⟩
  apply wellFormed_of_ofBlock? _ hread
  intro line hline
  rcases hrest line hline with ⟨hmem, hstarts⟩
  rcases List.mem_map.mp hmem with ⟨raw, hraw, rfl⟩
  exact ⟨language.isLine_stripLeadIn (h raw hraw), starts_eq_false.mp hstarts⟩

/-- Well-formed instructions are exactly what extraction gives for lines that each end
in their only line feed: written after any mark of the language they are such lines
and are read again, and whatever is read from such lines is well formed. -/
theorem extract_image (language : Language) :
    (forall (mark : Text) (instructions : List Instruction),
      language.LeadsIn mark ->
      (forall inst, inst ∈ instructions -> inst.WellFormed) ->
      language.extract (write mark instructions) = instructions ∧
        forall line, line ∈ write mark instructions -> Text.IsLine line) ∧
    forall lines : List Text,
      (forall line, line ∈ lines -> Text.IsLine line) ->
      forall inst, inst ∈ language.extract lines -> inst.WellFormed := by
  constructor
  · intro mark instructions hmark hwell
    constructor
    · exact extract_write hmark hwell
    · intro line hline
      exact isLine_of_mem_write hmark hwell hline
  · intro lines hlines inst hinst
    exact wellFormed_of_mem_extract hlines hinst

/-- A heading whose text holds a mark and an equals sign, and an item without title. -/
def widget : List Instruction :=
  [⟨"head1".toList, "NAME of it".toList,
      ["Widget\n  /*still text\n".toList, "= no tag\n".toList]⟩,
    ⟨"item".toList, [], []⟩]

theorem extract_write_widget :
    php.LeadsIn "//".toList ∧ (forall inst, inst ∈ widget -> inst.WellFormed) ∧
    php.extract (write "//".toList widget) = widget ∧
    forall inst, inst ∈ php.extract (write "//".toList widget) -> inst.WellFormed := by
  have hmark : php.LeadsIn "//".toList := Or.inl (by decide)
  have hwidget : forall inst, inst ∈ widget -> inst.WellFormed := by
    decide +kernel
  rcases php.extract_image with ⟨hforth, hback⟩
  rcases hforth "//".toList widget hmark hwidget with ⟨hread, hlines⟩
  exact ⟨hmark, hwidget, hread, hback _ hlines⟩

end Language
end PodManual
