import Mathlib.Data.List.Forall2
import Mathlib.Data.List.Infix
import Mathlib.Data.List.TakeWhile
import PodManual.Proofs.Page.Printed

/-!
# Outline of a page

The marks of a printed table of contents are its list tags and its entries.  An entry
has a target and a text, as has a heading in the body, and both are read off the print.

Main statement: the marks lead straight from the level of each heading to that of the
next, without ever closing a list that is not open, and the entries are the headings
of the body.
-/

namespace PodManual
namespace Page

/-!
## Marks
-/

/-- One mark of a table of contents: a list is opened or closed, or there is an entry. -/
inductive Mark where
  | opening
  | closing
  | entry (target text : Text)
  deriving DecidableEq, Repr

/-- The label between two given texts: a target that ends at a quotation mark, and a
text that ends at the next tag. -/
def label? (before after t : Text) : Option (Text × Text) := do
  let rest <- Text.after? before t
  let inner <- Text.after? "\">".toList (rest.dropWhile fun c => c != '\x22')
  let _ <- Text.after? after (inner.dropWhile fun c => c != '<')
  pure (rest.takeWhile fun c => c != '\x22', inner.takeWhile fun c => c != '<')

/-- The target and the text of the entry that a text begins with. -/
def entryAt? (t : Text) : Option (Text × Text) :=
  label? "<li><a href=\"#".toList "</a></li>".toList t

/-- The identifier and the text of the heading that a text begins with. -/
def headingAt? (t : Text) : Option (Text × Text) := do
  let rest <- Text.after? "<h".toList t
  label? " id=\"".toList ("</h".toList ++ (rest.takeWhile Char.isDigit ++ ">".toList))
    (rest.dropWhile Char.isDigit)

namespace Mark

def print : Mark -> Text
  | .opening => "<ul>".toList
  | .closing => "</ul>".toList
  | .entry target text =>
      "<li><a href=\"#".toList ++ (target ++ ("\">".toList ++ (text ++ "</a></li>".toList)))

def at? (t : Text) : Option Mark :=
  if Text.startsWith t "<ul>".toList then some .opening
  else if Text.startsWith t "</ul>".toList then some .closing
  else (entryAt? t).map fun found => .entry found.1 found.2

def isEntry : Mark -> Bool
  | .entry _ _ => true
  | _ => false

/-- What a mark adds to the number of open lists. -/
def shift : Mark -> Int
  | .opening => 1
  | .closing => -1
  | .entry _ _ => 0

/-- The letter is the mark in print, on a line of its own or not. -/
def Written (mark : Mark) (letter : Text) : Prop :=
  letter = mark.print ∨ letter = mark.print ++ ['\n']

end Mark

def marks (t : Text) : List Mark :=
  occurrences Mark.at? t

/-- The identifiers and texts of the headings in a text, from left to right. -/
def headingLabels (t : Text) : List (Text × Text) :=
  occurrences headingAt? t

def depth : List Mark -> Int
  | [] => 0
  | mark :: rest => mark.shift + depth rest

def entriesFrom : Int -> List Mark -> List (Int × Text × Text)
  | _, [] => []
  | depth, .entry target text :: rest => (depth, target, text) :: entriesFrom depth rest
  | depth, mark :: rest => entriesFrom (depth + mark.shift) rest

/-- The straight way from one level to another: as many marks as the levels are apart,
all of one kind. -/
def straight (first second : Nat) : List Mark :=
  if first < second then List.replicate (second - first) .opening
  else List.replicate (first - second) .closing

def headings (instructions : List Instruction) : List (Nat × Text) :=
  instructions.filterMap fun inst =>
    (Instruction.headingLevel? inst.element).map fun level => (level, inst.title)

/-- The contents are a table of the headings, and the body has the same headings. -/
structure IsOutline (contents body : Text) (headings : List (Nat × Text)) : Prop where
  /-- Below the title there is nothing but marks. -/
  written : exists letters : List Text, contents = contentsTitle ++ letters.flatten ∧
    List.Forall₂ Mark.Written (marks contents) letters
  /-- No list is closed that is not open. -/
  depth_nonneg : forall before, before <+: marks contents -> 0 ≤ depth before
  /-- Every list is closed. -/
  depth_eq_zero : depth (marks contents) = 0
  /-- The entries are the headings, at the depth of their levels. -/
  entries : entriesFrom 0 (marks contents) =
    headings.map fun heading => ((heading.1 : Int), anchor heading.2, escape heading.2)
  /-- Between two entries, before the first and after the last, the way is straight. -/
  gaps : (marks contents).splitOnP Mark.isEntry =
    List.zipWith straight (0 :: headings.map Prod.fst) (headings.map Prod.fst ++ [0])
  /-- The headings of the body have the labels of the entries. -/
  labels : (entriesFrom 0 (marks contents)).map Prod.snd = headingLabels body

/-!
## Labels in print
-/

theorem takeWhile_append_stop {p : Char -> Bool} {stop : Char} {t : Text}
    (ht : forall c, c ∈ t -> p c = true) (hstop : p stop = false) (rest : Text) :
    (t ++ stop :: rest).takeWhile p = t ∧
      (t ++ stop :: rest).dropWhile p = stop :: rest := by
  have hnot : ¬ p stop = true := by
    rw [hstop]
    exact Bool.false_ne_true
  constructor
  · rw [List.takeWhile_append_of_pos ht, List.takeWhile_cons_of_neg hnot, List.append_nil]
  · rw [List.dropWhile_append_of_pos ht, List.dropWhile_cons_of_neg hnot]

theorem bne_of_notMem {stop : Char} {t : Text} (h : stop ∉ t) :
    forall c, c ∈ t -> (c != stop) = true := by
  intro c hc
  apply bne_iff_ne.mpr
  intro heq
  rw [heq] at hc
  exact h hc

theorem label?_eq_some {before after t target text tail rest : Text}
    (hbefore : Text.after? before t =
      some (target ++ '\x22' :: '>' :: (text ++ '<' :: tail)))
    (hafter : Text.after? after ('<' :: tail) = some rest)
    (htarget : '\x22' ∉ target) (htext : '<' ∉ text) :
    label? before after t = some (target, text) := by
  rcases takeWhile_append_stop (bne_of_notMem htarget) (bne_self_eq_false' _)
    ('>' :: (text ++ '<' :: tail)) with ⟨htakeTarget, hdropTarget⟩
  rcases takeWhile_append_stop (bne_of_notMem htext) (bne_self_eq_false' _) tail with
    ⟨htakeText, hdropText⟩
  have hinner : Text.after? "\">".toList ('\x22' :: '>' :: (text ++ '<' :: tail)) =
      some (text ++ '<' :: tail) := rfl
  simp only [label?, hbefore, hdropTarget, htakeTarget, hinner, hdropText, htakeText, hafter,
    Option.bind_eq_bind, Option.bind_some, Option.pure_def]

theorem readsTags_label {before : Text} (after : Text) :
    ReadsTags (label? ('<' :: before) after) := by
  intro t ht
  simp only [label?, Text.after?_cons_of_head before ht, Option.bind_eq_bind,
    Option.bind_none]

theorem readsTags_heading : ReadsTags headingAt? := by
  intro t ht
  have hafter : Text.after? "<h".toList t = none := Text.after?_cons_of_head _ ht
  simp only [headingAt?, hafter, Option.bind_eq_bind, Option.bind_none]

theorem readsTags_mark : ReadsTags Mark.at? := by
  intro t ht
  have hopening : Text.startsWith t "<ul>".toList = false := by
    rw [Text.startsWith, show "<ul>".toList = '<' :: "ul>".toList from rfl,
      Text.after?_cons_of_head _ ht]
    rfl
  have hclosing : Text.startsWith t "</ul>".toList = false := by
    rw [Text.startsWith, show "</ul>".toList = '<' :: "/ul>".toList from rfl,
      Text.after?_cons_of_head _ ht]
    rfl
  have hentry : entryAt? t = none := readsTags_label _ t ht
  simp only [Mark.at?, hopening, hclosing, hentry, Option.map_none, Bool.false_eq_true,
    if_false]

/-!
## Marks of the contents
-/

def ContentsPiece.mark : ContentsPiece -> Mark
  | .deeper => .opening
  | .shallower => .closing
  | .entry title => .entry (anchor title) (escape title)
  | .finish => .closing

theorem ContentsPiece.written_mark (piece : ContentsPiece) :
    piece.mark.Written piece.print := by
  cases piece with
  | deeper => exact Or.inr rfl
  | shallower => exact Or.inr rfl
  | finish => exact Or.inl rfl
  | entry title =>
      left
      unfold ContentsPiece.print ContentsPiece.mark Mark.print
      simp only [List.append_assoc]

theorem occurrences_contentsTitle (t : Text) :
    occurrences Mark.at? (contentsTitle ++ t) = occurrences Mark.at? t := by
  have hopen := occurrences_tag readsTags_mark (s := "h1>CONTENTS".toList) (by decide)
    ("</h1>".toList ++ t)
  have hclose := occurrences_tag readsTags_mark (s := "/h1>".toList) (by decide) t
  exact hopen.trans hclose

theorem print_entry_append (title t : Text) :
    (ContentsPiece.entry title).print ++ t =
      '<' :: "li>".toList ++ ('<' :: ("a href=\"#".toList ++ (anchor title ++
        '\x22' :: '>' :: escape title)) ++ ('<' :: "/a>".toList ++
          ('<' :: "/li>".toList ++ t))) := by
  unfold ContentsPiece.print
  simp

theorem entryAt?_entry (title t : Text) :
    entryAt? ((ContentsPiece.entry title).print ++ t) = some (anchor title, escape title) := by
  have hbefore : Text.after? "<li><a href=\"#".toList
      ((ContentsPiece.entry title).print ++ t) =
        some (anchor title ++ '\x22' :: '>' ::
          (escape title ++ '<' :: ("/a></li>".toList ++ t))) := by
    unfold ContentsPiece.print
    simp only [List.append_assoc, Text.after?_append]
    rfl
  have hafter : Text.after? "</a></li>".toList ('<' :: ("/a></li>".toList ++ t)) = some t :=
    Text.after?_append "</a></li>".toList t
  exact label?_eq_some hbefore hafter (notMem_anchor (by decide) title)
    (notMem_escape (by decide) title)

theorem mark_at?_entry (title t : Text) :
    Mark.at? ((ContentsPiece.entry title).print ++ t) =
      some (.entry (anchor title) (escape title)) := by
  have hopening : Text.startsWith ((ContentsPiece.entry title).print ++ t)
      "<ul>".toList = false := by
    rw [print_entry_append]
    rfl
  have hclosing : Text.startsWith ((ContentsPiece.entry title).print ++ t)
      "</ul>".toList = false := by
    rw [print_entry_append]
    rfl
  simp only [Mark.at?, hopening, hclosing, entryAt?_entry, Option.map_some,
    Bool.false_eq_true, if_false]

theorem occurrences_piece (piece : ContentsPiece) (t : Text) :
    occurrences Mark.at? (piece.print ++ t) = piece.mark :: occurrences Mark.at? t := by
  cases piece with
  | deeper => exact occurrences_tag readsTags_mark (s := "ul>\n".toList) (by decide) t
  | shallower => exact occurrences_tag readsTags_mark (s := "/ul>\n".toList) (by decide) t
  | finish => exact occurrences_tag readsTags_mark (s := "/ul>".toList) (by decide) t
  | entry title =>
      -- The whole entry is read at its first tag, and nothing at the other three.
      have hread := mark_at?_entry title t
      have hlabel : '<' ∉ "a href=\"#".toList ++ (anchor title ++
          '\x22' :: '>' :: escape title) := by
        simp [notMem_anchor (c := '<') (by decide) title,
          notMem_escape (c := '<') (by decide) title]
      rw [print_entry_append] at hread ⊢
      rw [occurrences_tag readsTags_mark (by decide), hread,
        occurrences_tag readsTags_mark hlabel, occurrences_tag readsTags_mark (by decide),
        occurrences_tag readsTags_mark (by decide)]
      rfl

theorem marks_printContents (instructions : List Instruction) :
    marks (printContents instructions) = (contents instructions).map ContentsPiece.mark := by
  rw [marks, printContents, occurrences_contentsTitle]
  induction contents instructions with
  | nil => exact occurrences_nil readsTags_mark
  | cons piece pieces ih =>
      rw [List.flatMap_cons, occurrences_piece, ih, List.map_cons]

/-!
## The way between levels
-/

theorem wellFounded_depthRound (level : Nat) :
    WellFounded fun next depth => exists piece, depthRound? level depth = some (piece, next) := by
  apply Subrelation.wf _ (measure fun depth => (level - depth) + (depth - level)).wf
  rintro next depth ⟨piece, hround⟩
  exact depthRound?_nearer hround

theorem straight_of_lt {first second : Nat} (h : first < second) :
    straight first second = .opening :: straight (first + 1) second := by
  rw [straight, if_pos h]
  by_cases hnext : first + 1 < second
  · rw [straight, if_pos hnext, ← List.replicate_succ]
    congr 1
    omega
  · have heq : second = first + 1 := by omega
    rw [heq, straight, if_neg (Nat.lt_irrefl _), Nat.sub_self, Nat.add_sub_cancel_left]
    rfl

theorem straight_of_gt {first second : Nat} (h : second < first) :
    straight first second = .closing :: straight (first - 1) second := by
  rw [straight, if_neg (by omega), straight, if_neg (by omega), ← List.replicate_succ]
  congr 1
  omega

theorem map_mark_changeDepth (first second : Nat) :
    (changeDepth first second).map ContentsPiece.mark = straight first second := by
  fun_induction changeDepth first second with
  | case1 first hround =>
      have heq : first = second := by
        unfold depthRound? at hround
        grind
      rw [heq, straight, if_neg (Nat.lt_irrefl _), Nat.sub_self]
      rfl
  | case2 first piece next hround ih =>
      rw [List.map_cons, ih]
      unfold depthRound? at hround
      split at hround
      · cases hround
      · split at hround
        · rename_i hlt
          cases hround
          exact (straight_of_lt hlt).symm
        · cases hround
          exact (straight_of_gt (by omega)).symm

theorem headings_cons_of_heading {inst : Instruction} {level : Nat}
    (h : inst.role = .heading level) (rest : List Instruction) :
    headings (inst :: rest) = (level, inst.title) :: headings rest := by
  rw [headings, List.filterMap_cons, role_eq_heading.mp h]
  rfl

theorem headings_cons_of_other {inst : Instruction}
    (h : forall level, inst.role ≠ .heading level) (rest : List Instruction) :
    headings (inst :: rest) = headings rest := by
  have hlevel : Instruction.headingLevel? inst.element = none := by
    apply Option.eq_none_iff_forall_ne_some.mpr
    intro level hsome
    exact h level (role_eq_heading.mpr hsome)
  rw [headings, List.filterMap_cons, hlevel]
  rfl

theorem contentsFrom_cons_of_heading {inst : Instruction} {level : Nat}
    (h : inst.role = .heading level) (depth : Nat) (rest : List Instruction) :
    contentsFrom depth (inst :: rest) =
      changeDepth depth level ++ .entry inst.title :: contentsFrom level rest := by
  simp only [contentsFrom, h]

theorem contentsFrom_cons_of_other {inst : Instruction}
    (h : forall level, inst.role ≠ .heading level) (depth : Nat) (rest : List Instruction) :
    contentsFrom depth (inst :: rest) = contentsFrom depth rest := by
  rw [contentsFrom]
  split
  · rename_i level hrole
    exact absurd hrole (h level)
  · rfl

def wayThrough : Nat -> List (Nat × Text) -> List Mark
  | level, [] => straight level 0
  | level, heading :: rest =>
      straight level heading.1 ++
        .entry (anchor heading.2) (escape heading.2) :: wayThrough heading.1 rest

theorem map_mark_contentsFrom (level : Nat) (instructions : List Instruction) :
    (contentsFrom level instructions).map ContentsPiece.mark =
      wayThrough level (headings instructions) := by
  induction instructions generalizing level with
  | nil =>
      change (List.replicate level ContentsPiece.finish).map ContentsPiece.mark =
        straight level 0
      rw [List.map_replicate, straight, if_neg (Nat.not_lt_zero level)]
      rfl
  | cons inst rest ih =>
      by_cases hheading : exists next, inst.role = .heading next
      · rcases hheading with ⟨next, hrole⟩
        rw [contentsFrom_cons_of_heading hrole, headings_cons_of_heading hrole,
          List.map_append, List.map_cons, map_mark_changeDepth, ih]
        rfl
      · have hother : forall next, inst.role ≠ .heading next := not_exists.mp hheading
        rw [contentsFrom_cons_of_other hother, headings_cons_of_other hother, ih]

/-!
## Depth along the way
-/

@[simp] theorem depth_nil : depth [] = 0 := rfl

@[simp] theorem depth_cons (mark : Mark) (word : List Mark) :
    depth (mark :: word) = mark.shift + depth word := rfl

@[simp] theorem depth_append (first second : List Mark) :
    depth (first ++ second) = depth first + depth second := by
  induction first with
  | nil => simp
  | cons mark rest ih =>
      rw [List.cons_append, depth_cons, depth_cons, ih]
      omega

theorem depth_replicate (count : Nat) (mark : Mark) :
    depth (List.replicate count mark) = count * mark.shift := by
  induction count with
  | zero => simp
  | succ count ih =>
      rw [List.replicate_succ, depth_cons, ih, Int.natCast_add, Int.add_mul]
      omega

theorem depth_straight (first second : Nat) :
    depth (straight first second) = second - first := by
  unfold straight
  split
  · rw [depth_replicate, Mark.shift]
    omega
  · rw [depth_replicate, Mark.shift]
    omega

/-- Closing marks on the way down to a level do not go below it. -/
theorem depth_nonneg_of_prefix_straight {first second : Nat} {before : List Mark}
    (h : before <+: straight first second) : 0 ≤ first + depth before := by
  unfold straight at h
  split at h
  · rcases List.prefix_replicate_iff.mp h with ⟨hlength, hbefore⟩
    rw [hbefore, depth_replicate, Mark.shift]
    omega
  · rcases List.prefix_replicate_iff.mp h with ⟨hlength, hbefore⟩
    rw [hbefore, depth_replicate, Mark.shift]
    omega

theorem isEntry_of_mem_straight {first second : Nat} {mark : Mark}
    (h : mark ∈ straight first second) : mark.isEntry = false := by
  unfold straight at h
  split at h
  · rw [List.eq_of_mem_replicate h]
    rfl
  · rw [List.eq_of_mem_replicate h]
    rfl

theorem depth_wayThrough (level : Nat) (found : List (Nat × Text)) :
    level + depth (wayThrough level found) = 0 := by
  induction found generalizing level with
  | nil =>
      rw [wayThrough, depth_straight]
      omega
  | cons heading rest ih =>
      have hrest := ih heading.1
      rw [wayThrough, depth_append, depth_straight, depth_cons]
      simp only [Mark.shift]
      omega

theorem depth_nonneg_of_prefix_wayThrough {level : Nat} {found : List (Nat × Text)}
    {before : List Mark} (h : before <+: wayThrough level found) :
    0 ≤ level + depth before := by
  induction found generalizing level before with
  | nil => exact depth_nonneg_of_prefix_straight h
  | cons heading rest ih =>
      -- The beginning ends before the entry of the next heading, or it holds this entry
      -- and goes on from its level.
      rw [wayThrough] at h
      rcases List.prefix_or_prefix_of_prefix h (List.prefix_append _ _) with
        hfirst | ⟨later, rfl⟩
      · exact depth_nonneg_of_prefix_straight hfirst
      · rcases List.prefix_cons_iff.mp ((List.prefix_append_right_inj _).mp h) with
          rfl | ⟨inner, rfl, hinner⟩
        · rw [depth_append, depth_straight, depth_nil]
          omega
        · have hrest := ih hinner
          rw [depth_append, depth_straight, depth_cons]
          simp only [Mark.shift]
          omega

theorem entriesFrom_append {first : List Mark}
    (h : forall mark, mark ∈ first -> mark.isEntry = false) (level : Int)
    (second : List Mark) :
    entriesFrom level (first ++ second) = entriesFrom (level + depth first) second := by
  induction first generalizing level with
  | nil => simp
  | cons mark rest ih =>
      have hrest := ih fun other hother => h other (List.mem_cons_of_mem _ hother)
      have hmark := h mark List.mem_cons_self
      cases mark with
      | entry target text => cases hmark
      | opening =>
          rw [List.cons_append, entriesFrom, hrest, depth_cons, Int.add_assoc]
          simp
      | closing =>
          rw [List.cons_append, entriesFrom, hrest, depth_cons, Int.add_assoc]
          simp

theorem entriesFrom_wayThrough (level : Nat) (found : List (Nat × Text)) :
    entriesFrom level (wayThrough level found) =
      found.map fun heading => ((heading.1 : Int), anchor heading.2, escape heading.2) := by
  induction found generalizing level with
  | nil =>
      rw [wayThrough, ← List.append_nil (straight level 0),
        entriesFrom_append fun mark => isEntry_of_mem_straight]
      rfl
  | cons heading rest ih =>
      have hlevel : (level : Int) + depth (straight level heading.1) = heading.1 := by
        rw [depth_straight]
        omega
      rw [wayThrough, entriesFrom_append fun mark => isEntry_of_mem_straight, hlevel,
        entriesFrom, ih, List.map_cons]

theorem splitOnP_wayThrough (level : Nat) (found : List (Nat × Text)) :
    (wayThrough level found).splitOnP Mark.isEntry =
      List.zipWith straight (level :: found.map Prod.fst) (found.map Prod.fst ++ [0]) := by
  induction found generalizing level with
  | nil => exact List.splitOnP_eq_singleton fun mark => isEntry_of_mem_straight
  | cons heading rest ih =>
      rw [wayThrough, List.splitOnP_append_cons_of_forall_mem
        (fun mark => isEntry_of_mem_straight) _ rfl, ih]
      rfl

/-!
## Headings of the body
-/

theorem headingAt?_heading (level : Nat) (title t : Text) :
    headingAt? ((Fragment.openHeading level title).print ++ (escape title ++
      ((Fragment.closeHeading level).print ++ t))) = some (anchor title, escape title) := by
  have hlevel : forall c, c ∈ Text.ofNat level -> c.isDigit = true := by
    intro c hc
    exact Text.isDigit_of_mem_ofNat hc
  have hspace : Char.isDigit ' ' = false := by decide
  rcases takeWhile_append_stop hlevel hspace
    ("id=\"".toList ++ (anchor title ++ ("\">".toList ++ (escape title ++
      ((Fragment.closeHeading level).print ++ t))))) with ⟨htake, hdrop⟩
  have hafter : Text.after? "<h".toList ((Fragment.openHeading level title).print ++
      (escape title ++ ((Fragment.closeHeading level).print ++ t))) =
        some (Text.ofNat level ++ ' ' :: ("id=\"".toList ++ (anchor title ++
          ("\">".toList ++ (escape title ++ ((Fragment.closeHeading level).print ++ t)))))) := by
    rw [Fragment.print_openHeading]
    simp only [List.append_assoc, Text.after?_append]
    rfl
  have hlabel : label? " id=\"".toList
      ("</h".toList ++ (Text.ofNat level ++ ">".toList))
      (' ' :: ("id=\"".toList ++ (anchor title ++ ("\">".toList ++ (escape title ++
        ((Fragment.closeHeading level).print ++ t)))))) =
          some (anchor title, escape title) := by
    rw [Fragment.print_closeHeading]
    apply label?_eq_some _ _ (notMem_anchor (by decide) title)
      (notMem_escape (by decide) title)
    · exact "/h".toList ++ (Text.ofNat level ++ ">".toList) ++ t
    · exact t
    · exact Text.after?_append " id=\"".toList _
    · exact Text.after?_append _ t
  simp only [headingAt?, hafter, htake, hdrop, hlabel, Option.bind_eq_bind,
    Option.bind_some]

theorem headingAt?_print {fragment : Fragment} (hmarkup : fragment.isMarkup = true)
    (hother : forall level title, fragment ≠ .openHeading level title) (t : Text) :
    headingAt? (fragment.print ++ t) = none := by
  cases fragment with
  | openHeading level title => exact absurd rfl (hother level title)
  | openList kind => cases kind <;> rfl
  | closeList kind => cases kind <;> rfl
  | openEntry kind => cases kind <;> rfl
  | closeEntry kind => cases kind <;> rfl
  | text _ => cases hmarkup
  | tag _ => cases hmarkup
  | _ => rfl

/-- Nothing but the opening tags of headings is read as a heading. -/
theorem occurrences_headingAt?_printAll {fragments : List Fragment}
    (hunmarked : forall fragment, fragment ∈ fragments -> fragment.Unmarked)
    (hother : forall level title, Fragment.openHeading level title ∉ fragments) (t : Text) :
    occurrences headingAt? (Fragment.printAll fragments ++ t) = occurrences headingAt? t := by
  have hmarkup : forall fragment, fragment ∈ fragments -> fragment.isMarkup = true ->
      forall t, headingAt? (fragment.print ++ t) = none := by
    intro fragment hmem hkind
    apply headingAt?_print hkind
    rintro level title rfl
    exact hother level title hmem
  rw [Fragment.occurrences_printAll readsTags_heading (fun _ => none) hunmarked hmarkup
    (fun _ _ _ => rfl) t, List.filterMap_eq_nil_iff.mpr fun _ _ => rfl]
  rfl

theorem occurrences_heading (level : Nat) (title t : Text) :
    occurrences headingAt? (Fragment.printAll
        [.openHeading level title, .text title, .closeHeading level] ++ t) =
      (anchor title, escape title) :: occurrences headingAt? t := by
  have hrest : occurrences headingAt? (Fragment.printAll
      [.text title, .closeHeading level] ++ t) = occurrences headingAt? t := by
    apply occurrences_headingAt?_printAll
    · intro fragment hmem element heq
      rw [heq] at hmem
      simp at hmem
    · intro other label hmem
      simp at hmem
  have hprint : Fragment.printAll
      [.openHeading level title, .text title, .closeHeading level] ++ t =
        (Fragment.openHeading level title).print ++ (escape title ++
          ((Fragment.closeHeading level).print ++ t)) := by
    simp [Fragment.print]
  have hread := headingAt?_heading level title t
  rw [← hprint, Fragment.printAll_cons, List.append_assoc] at hread
  have hkind : (Fragment.openHeading level title).isMarkup = true := rfl
  rcases Fragment.print_of_isMarkup hkind with ⟨s, hs, hfree⟩
  rw [hs] at hread
  rw [Fragment.printAll_cons, List.append_assoc, hs, occurrences_tag readsTags_heading hfree,
    hread, hrest]
  rfl

theorem headingLabels_bodyFrom (scopes : List Scope) {instructions : List Instruction}
    (h : forall inst, inst ∈ instructions -> '<' ∉ inst.element) :
    occurrences headingAt? (Fragment.printAll (bodyFrom scopes instructions)) =
      (headings instructions).map fun heading => (anchor heading.2, escape heading.2) := by
  induction instructions generalizing scopes with
  | nil => exact occurrences_nil readsTags_heading
  | cons inst rest ih =>
      -- The scopes play no part: only a heading writes the opening tag of one.
      have hinst := h inst List.mem_cons_self
      have hrest : occurrences headingAt?
          (Fragment.printAll (contentFragments inst.content) ++
            Fragment.printAll (bodyFrom (step scopes inst rest.head?).2 rest)) =
          (headings rest).map fun heading => (anchor heading.2, escape heading.2) := by
        rw [occurrences_headingAt?_printAll]
        · exact ih _ fun other hother => h other (List.mem_cons_of_mem _ hother)
        · intro fragment hmem
          exact (comesFrom_of_mem_contentFragments hmem inst).unmarked hinst
        · intro level title hmem
          rcases mem_contentFragments hmem with hinline | ⟨t, heq⟩
          · simp at hinline
          · cases heq
      rw [bodyFrom, Fragment.printAll_append, Fragment.printAll_append, List.append_assoc]
      by_cases hheading : exists level, inst.role = .heading level
      · rcases hheading with ⟨level, hrole⟩
        have hstep := congrArg Prod.fst (step_of_heading scopes rest.head? hrole)
        rw [headings_cons_of_heading hrole, List.map_cons, hstep, occurrences_heading, hrest]
      · have hother : forall level, inst.role ≠ .heading level := not_exists.mp hheading
        rw [headings_cons_of_other hother, occurrences_headingAt?_printAll, hrest]
        · intro fragment hmem
          exact (comesFrom_of_mem_step hmem).unmarked hinst
        · intro level title hmem
          exact hother level (comesFrom_of_mem_step hmem)

/-- The contents of a page are a well-nested table of the headings of its body, and the
rounds that lead from one level to the next come to an end for every pair of them. -/
theorem contents_isOutline (instructions : List Instruction)
    (h : forall inst, inst ∈ instructions -> '<' ∉ inst.element) :
    IsOutline (printContents instructions) (printBody instructions) (headings instructions) ∧
      forall level : Nat, WellFounded fun next depth =>
        exists piece, depthRound? level depth = some (piece, next) := by
  have hmarks : marks (printContents instructions) = wayThrough 0 (headings instructions) :=
    (marks_printContents instructions).trans (map_mark_contentsFrom 0 instructions)
  have hentries := entriesFrom_wayThrough 0 (headings instructions)
  refine ⟨?_, wellFounded_depthRound⟩
  constructor
  · refine ⟨(contents instructions).map ContentsPiece.print, rfl, ?_⟩
    rw [marks_printContents, List.forall₂_map_left_iff, List.forall₂_map_right_iff]
    exact List.forall₂_same.mpr fun piece _ => piece.written_mark
  · intro before hbefore
    rw [hmarks] at hbefore
    have hnonneg := depth_nonneg_of_prefix_wayThrough hbefore
    simpa using hnonneg
  · rw [hmarks]
    simpa using depth_wayThrough 0 (headings instructions)
  · rw [hmarks]
    exact hentries
  · rw [hmarks, splitOnP_wayThrough]
  · rw [hmarks]
    change (entriesFrom ((0 : Nat) : Int) _).map Prod.snd = _
    rw [hentries, List.map_map, headingLabels, printBody, body, headingLabels_bodyFrom [] h]
    rfl

/-- Headings of the levels three, zero and one, the second with a digit of another script,
inside a list that stays open. -/
def ladder : List Instruction :=
  [⟨"head3".toList, "A & B".toList, []⟩, ⟨"over".toList, [], ["<h1>\n".toList]⟩,
    ⟨"head٠".toList, "zero".toList, []⟩, ⟨"item".toList, "<li>".toList, []⟩,
    ⟨"head1".toList, "A & B".toList, []⟩]

theorem ladder_isOutline :
    (forall inst, inst ∈ ladder -> '<' ∉ inst.element) ∧
    (headings ladder).map Prod.fst = [3, 0, 1] ∧
    IsOutline (printContents ladder) (printBody ladder) (headings ladder) := by
  have helement : forall inst, inst ∈ ladder -> '<' ∉ inst.element := by decide
  exact ⟨helement, by decide, (contents_isOutline ladder helement).left⟩

end Page
end PodManual
