import Mathlib.Data.List.Forall2
import PodManual.Page.Paragraph
import PodManual.Proofs.Page.Escape
import PodManual.Proofs.Text.Line
import PodManual.Proofs.Text.Order

/-!
# Paragraphs read back

Cut before each less-than sign, printed paragraphs fall into tags, each with the text up
to the next one.  The tags tell where a paragraph begins, of which kind it is, and where
a line of prose ends.

Main statement: two lists of paragraphs have the same print exactly when their
paragraphs agree one by one in kind and in text, the line ends that close them apart.
-/

namespace PodManual

namespace Text

theorem joinWith_cons_eq_flatMap (sep : Char) (piece : Text) (pieces : List Text) :
    joinWith [sep] (piece :: pieces) = piece ++ pieces.flatMap (sep :: ·) := by
  induction pieces generalizing piece with
  | nil => exact (List.append_nil piece).symm
  | cons next rest ih =>
      rw [joinWith_cons_of_ne_nil _ _ (List.cons_ne_nil next rest), ih, List.append_assoc]
      rfl

theorem exists_cutAt_eq_cons (sep : Char) (t : Text) :
    exists piece pieces, cutAt sep t = piece :: pieces ∧
      t = piece ++ pieces.flatMap (sep :: ·) := by
  rcases List.exists_cons_of_ne_nil (cutAt_ne_nil sep t) with ⟨piece, pieces, hcut⟩
  refine ⟨piece, pieces, hcut, ?_⟩
  rw [← joinWith_cons_eq_flatMap, ← hcut, joinWith_cutAt]

end Text

namespace Page

/-!
## Tags and the text after them
-/

structure Tagged where
  name : Text
  text : Text
  deriving DecidableEq, Repr

namespace Tagged

def inner (piece : Tagged) : Text :=
  piece.name ++ '>' :: escape piece.text

def print (piece : Tagged) : Text :=
  '<' :: piece.inner

def ofInner (t : Text) : Tagged :=
  ⟨t.takeWhile (· != '>'), unescape (t.dropWhile (· != '>')).tail⟩

def Legible (piece : Tagged) : Prop :=
  '<' ∉ piece.name ∧ '>' ∉ piece.name

theorem ofInner_inner {piece : Tagged} (h : piece.Legible) : ofInner piece.inner = piece := by
  have hname : forall c, c ∈ piece.name -> (c != '>') = true := by
    intro c hc
    apply bne_iff_ne.mpr
    rintro rfl
    exact h.right hc
  have hend : forall c, c ∈ ('>' :: escape piece.text).head? -> (c != '>') = false := by
    intro c hc
    cases hc
    rfl
  rcases Text.takeWhile_dropWhile_append hname hend with ⟨htake, hdrop⟩
  rw [ofInner, inner, htake, hdrop, List.tail_cons, unescape_escape]

theorem notMem_inner {piece : Tagged} (h : piece.Legible) : '<' ∉ piece.inner := by
  rw [inner, List.mem_append, List.mem_cons]
  rintro (hname | hsign | htext)
  · exact h.left hname
  · cases hsign
  · exact notMem_escape (by decide) _ htext

end Tagged

/-- The tags of a text, each with the text up to the next one. -/
def taggedOf (t : Text) : List Tagged :=
  (Text.cutAt '<' t).tail.map Tagged.ofInner

theorem taggedOf_flatMap_print {pieces : List Tagged}
    (h : forall piece, piece ∈ pieces -> piece.Legible) :
    taggedOf (pieces.flatMap Tagged.print) = pieces := by
  have hjoined : pieces.flatMap Tagged.print =
      Text.joinWith ['<'] ([] :: pieces.map Tagged.inner) := by
    rw [Text.joinWith_cons_eq_flatMap, List.nil_append, List.flatMap_map]
    rfl
  have hfree : forall t, t ∈ [] :: pieces.map Tagged.inner -> '<' ∉ t := by
    intro t ht
    rcases List.mem_cons.mp ht with rfl | hmem
    · exact List.not_mem_nil
    · rcases List.mem_map.mp hmem with ⟨piece, hpiece, rfl⟩
      exact Tagged.notMem_inner (h piece hpiece)
  rw [taggedOf, hjoined, Text.cutAt_joinWith (List.cons_ne_nil _ _) hfree, List.tail_cons,
    List.map_map]
  calc
    pieces.map (Tagged.ofInner ∘ Tagged.inner) = pieces.map id :=
      List.map_congr_left fun piece hpiece => Tagged.ofInner_inner (h piece hpiece)
    _ = pieces := List.map_id pieces

/-!
## Paragraphs as tags
-/

/-- What a page keeps of a paragraph: its kind, and its text without the line ends that
close it. -/
structure ParagraphView where
  preformatted : Bool
  text : Text
  deriving DecidableEq, Repr

namespace ParagraphView

def ofParagraph (paragraph : Text) : ParagraphView :=
  ⟨isPreformatted paragraph, paragraphText paragraph⟩

def lineTag (line : Text) : Tagged :=
  ⟨"br".toList, line⟩

def tags (view : ParagraphView) : List Tagged :=
  if view.preformatted then [⟨"code".toList, view.text⟩, ⟨"/code".toList, []⟩]
  else
    match Text.cutAt '\n' view.text with
    | [] => []
    | line :: lines =>
        ⟨"p".toList, line⟩ :: (lines.map lineTag ++ [⟨"/p".toList, []⟩])

theorem tags_prose {text line : Text} {lines : List Text}
    (h : Text.cutAt '\n' text = line :: lines) :
    tags ⟨false, text⟩ = ⟨"p".toList, line⟩ :: (lines.map lineTag ++ [⟨"/p".toList, []⟩]) := by
  simp only [tags, Bool.false_eq_true, if_false, h]

def tagNames : List Text :=
  ["code".toList, "/code".toList, "p".toList, "br".toList, "/p".toList]

theorem name_mem_of_mem_tags {view : ParagraphView} {piece : Tagged}
    (h : piece ∈ view.tags) : piece.name ∈ tagNames := by
  rcases view with ⟨_ | _, text⟩
  · rcases Text.exists_cutAt_eq_cons '\n' text with ⟨line, lines, hlines, _⟩
    rw [tags_prose hlines] at h
    rcases List.mem_cons.mp h with rfl | hrest
    · show "p".toList ∈ tagNames
      decide
    · rcases List.mem_append.mp hrest with hline | hlast
      · rcases List.mem_map.mp hline with ⟨next, _, rfl⟩
        show "br".toList ∈ tagNames
        decide
      · rw [List.mem_singleton.mp hlast]
        decide
  · rcases List.mem_cons.mp h with rfl | hlast
    · show "code".toList ∈ tagNames
      decide
    · rw [List.mem_singleton.mp hlast]
      decide

theorem legible_of_mem_tags {view : ParagraphView} {piece : Tagged}
    (h : piece ∈ view.tags) : piece.Legible := by
  have hnames : forall name, name ∈ tagNames -> '<' ∉ name ∧ '>' ∉ name := by decide
  exact hnames piece.name (name_mem_of_mem_tags h)

end ParagraphView

theorem printAll_lines (line : Text) (lines : List Text) :
    Fragment.printAll (((line :: lines).map Fragment.text).intersperse .lineBreak) =
      escape line ++ (lines.map ParagraphView.lineTag).flatMap Tagged.print := by
  induction lines generalizing line with
  | nil => rfl
  | cons next rest ih =>
      show escape line ++ (Fragment.lineBreak.print ++ Fragment.printAll
        (((next :: rest).map Fragment.text).intersperse .lineBreak)) = _
      rw [ih]
      rfl

theorem printAll_paragraphFragments (paragraph : Text) :
    Fragment.printAll (paragraphFragments paragraph) =
      (ParagraphView.ofParagraph paragraph).tags.flatMap Tagged.print := by
  unfold paragraphFragments ParagraphView.ofParagraph
  cases isPreformatted paragraph with
  | true => rfl
  | false =>
      rcases Text.exists_cutAt_eq_cons '\n' (paragraphText paragraph) with
        ⟨line, lines, hlines, _⟩
      rw [ParagraphView.tags_prose hlines, hlines, if_neg Bool.false_ne_true,
        List.flatMap_cons, List.flatMap_append, ← List.append_assoc,
        Fragment.printAll_append, Fragment.printAll_cons, printAll_lines]
      rfl

theorem printContent_eq_flatMap (content : List Text) :
    printContent content =
      ((content.map ParagraphView.ofParagraph).flatMap ParagraphView.tags).flatMap
        Tagged.print := by
  rw [printContent, contentFragments, Fragment.printAll, List.flatMap_assoc,
    List.flatMap_assoc, List.flatMap_map]
  apply List.flatMap_congr
  intro paragraph _
  exact printAll_paragraphFragments paragraph

/-!
## Reading the tags
-/

/-- What is read at one tag, before what is read at the later ones: the lines that go on
with the paragraph before them, and the paragraphs. -/
def readTag (piece : Tagged) (later : Text × List ParagraphView) :
    Text × List ParagraphView :=
  if piece.name = "code".toList then ([], ⟨true, piece.text⟩ :: later.2)
  else if piece.name = "p".toList then ([], ⟨false, piece.text ++ later.1⟩ :: later.2)
  else if piece.name = "br".toList then ('\n' :: piece.text ++ later.1, later.2)
  else ([], later.2)

def paragraphsOf (t : Text) : List ParagraphView :=
  ((taggedOf t).foldr readTag ([], [])).2

theorem foldr_readTag_lines (lines : List Text) (later : List ParagraphView) :
    (lines.map ParagraphView.lineTag).foldr readTag ([], later) =
      (lines.flatMap ('\n' :: ·), later) := by
  induction lines with
  | nil => rfl
  | cons line rest ih =>
      rw [List.map_cons, List.foldr_cons, ih]
      rfl

theorem foldr_readTag_tags (view : ParagraphView) (later : Text × List ParagraphView) :
    view.tags.foldr readTag later = ([], view :: later.2) := by
  rcases view with ⟨_ | _, text⟩
  · rcases Text.exists_cutAt_eq_cons '\n' text with ⟨line, lines, hlines, htext⟩
    rw [ParagraphView.tags_prose hlines, List.foldr_cons, List.foldr_append]
    -- The closing tag drops the lines that later tags left over, so none of them joins
    -- the lines of this paragraph.
    show readTag _ ((lines.map ParagraphView.lineTag).foldr readTag ([], later.2)) = _
    rw [foldr_readTag_lines]
    show ([], ParagraphView.mk false (line ++ lines.flatMap ('\n' :: ·)) :: later.2) = _
    rw [← htext]
  · rfl

theorem foldr_readTag_flatMap_tags (views : List ParagraphView) :
    (views.flatMap ParagraphView.tags).foldr readTag ([], []) = ([], views) := by
  induction views with
  | nil => rfl
  | cons view views ih =>
      rw [List.flatMap_cons, List.foldr_append, ih, foldr_readTag_tags]

theorem paragraphsOf_printContent (content : List Text) :
    paragraphsOf (printContent content) = content.map ParagraphView.ofParagraph := by
  have hlegible : forall piece,
      piece ∈ (content.map ParagraphView.ofParagraph).flatMap ParagraphView.tags ->
        piece.Legible := by
    intro piece hpiece
    rcases List.mem_flatMap.mp hpiece with ⟨view, _, hmem⟩
    exact ParagraphView.legible_of_mem_tags hmem
  rw [paragraphsOf, printContent_eq_flatMap, taggedOf_flatMap_print hlegible,
    foldr_readTag_flatMap_tags]

theorem printContent_eq_iff_views {first second : List Text} :
    printContent first = printContent second <->
      first.map ParagraphView.ofParagraph = second.map ParagraphView.ofParagraph := by
  constructor
  · intro h
    rw [← paragraphsOf_printContent first, h, paragraphsOf_printContent]
  · intro h
    rw [printContent_eq_flatMap, h, ← printContent_eq_flatMap]

/-- Nothing is lost of paragraphs but the line ends that close them: two lists have the
same print exactly when they are equally long and agree, paragraph by paragraph, on
whether it begins with white space and on its text; and both can be read off the print. -/
theorem printContent_eq_iff (first second : List Text) :
    (printContent first = printContent second <->
      first.length = second.length ∧
      forall (place : Nat) (hfirst : place < first.length) (hsecond : place < second.length),
        isPreformatted first[place] = isPreformatted second[place] ∧
        paragraphText first[place] = paragraphText second[place]) ∧
    paragraphsOf (printContent first) = first.map ParagraphView.ofParagraph := by
  refine ⟨?_, paragraphsOf_printContent first⟩
  rw [printContent_eq_iff_views, ← List.forall₂_eq_eq_eq, List.forall₂_map_left_iff,
    List.forall₂_map_right_iff, List.forall₂_iff_get]
  simp only [ParagraphView.ofParagraph, ParagraphView.mk.injEq, List.get_eq_getElem]

end Page
end PodManual
