import PodManual.Proofs.Page.Printed

/-!
# Document trees

Instructions that are nested properly are a sequence of blocks: headings, free tags, and
lists, whose items hold blocks again.  The page of a tree can be written down by
recursion on it, without scopes and without looking ahead.

Main statement: the body of the instructions of a tree is this page.
-/

namespace PodManual
namespace Page

/-!
## Trees
-/

structure Passage where
  title : Text
  content : List Text

/-- The tag of a heading: `head` and a decimal digit, which a line feed may follow. -/
structure HeadingTag where
  digit : Char
  level : Nat
  lineFeed : Bool
  digitValue : Text.digitValue? digit = some level

def HeadingTag.text (tag : HeadingTag) : Text :=
  "head".toList ++ tag.digit :: if tag.lineFeed then ['\n'] else []

/-- A tag that is neither that of a heading nor one of the tags of lists. -/
structure FreeTag where
  text : Text
  ne_nil : text ≠ []
  ne_over : text ≠ "over".toList
  ne_back : text ≠ "back".toList
  ne_item : text ≠ "item".toList
  ne_heading : forall tag : HeadingTag, text ≠ tag.text

mutual

/-- A heading, a free tag, or a list: its beginning, the blocks before its first item,
its items, and its end. -/
inductive Block where
  | heading (tag : HeadingTag) (passage : Passage)
  | free (tag : FreeTag) (passage : Passage)
  | list (start : Passage) (leading : List Block) (items : List Item) (finish : Passage)

inductive Item where
  | item (passage : Passage) (nested : List Block)

end

def Passage.under (passage : Passage) (element : Text) : Instruction :=
  ⟨element, passage.title, passage.content⟩

@[simp] theorem Passage.under_element (passage : Passage) (element : Text) :
    (passage.under element).element = element := rfl

@[simp] theorem Passage.under_title (passage : Passage) (element : Text) :
    (passage.under element).title = passage.title := rfl

@[simp] theorem Passage.under_content (passage : Passage) (element : Text) :
    (passage.under element).content = passage.content := rfl

mutual

def Block.instructions : Block -> List Instruction
  | .heading tag passage => [passage.under tag.text]
  | .free tag passage => [passage.under tag.text]
  | .list start leading items finish =>
      start.under "over".toList ::
        (Block.instructionsOf leading ++ Item.instructionsOf items ++
          [finish.under "back".toList])

def Block.instructionsOf : List Block -> List Instruction
  | [] => []
  | block :: blocks => block.instructions ++ Block.instructionsOf blocks

def Item.instructionsOf : List Item -> List Instruction
  | [] => []
  | .item passage nested :: items =>
      passage.under "item".toList ::
        (Block.instructionsOf nested ++ Item.instructionsOf items)

end

/-- A list holds definitions when nothing stands before its first item, and this has a
title and paragraphs. -/
def Block.kindOfList : List Block -> List Item -> ListKind
  | [], .item passage _ :: _ =>
      if passage.title ≠ [] ∧ passage.content ≠ [] then .definition else .bulleted
  | _, _ => .bulleted

def headingHtml (level : Nat) (passage : Passage) : Text :=
  "<h".toList ++ Text.ofNat level ++ " id=\"POD_".toList ++ escape passage.title ++
    "\">".toList ++ escape passage.title ++ "</h".toList ++ Text.ofNat level ++
    ">".toList ++ printContent passage.content

def freeHtml (element : Text) (passage : Passage) : Text :=
  element ++ escape passage.title ++ printContent passage.content

def listHtml (kind : ListKind) (start : Passage) (inner : Text) (finish : Passage) : Text :=
  match kind with
  | .bulleted =>
      "<ul>".toList ++ printContent start.content ++ inner ++ "</ul>".toList ++
        printContent finish.content
  | .definition =>
      "<dl>".toList ++ printContent start.content ++ inner ++ "</dl>".toList ++
        printContent finish.content

def itemHtml (kind : ListKind) (passage : Passage) (nested : Text) : Text :=
  match kind with
  | .bulleted =>
      "<li>".toList ++ escape passage.title ++ printContent passage.content ++ nested ++
        "</li>".toList
  | .definition =>
      "<dt>".toList ++ escape passage.title ++ "</dt><dd>".toList ++
        printContent passage.content ++ nested ++ "</dd>".toList

mutual

def Block.html : Block -> Text
  | .heading tag passage => headingHtml tag.level passage
  | .free tag passage => freeHtml tag.text passage
  | .list start leading items finish =>
      listHtml (Block.kindOfList leading items) start
        (Block.htmlOf leading ++ Item.htmlOf (Block.kindOfList leading items) items) finish

def Block.htmlOf : List Block -> Text
  | [] => []
  | block :: blocks => block.html ++ Block.htmlOf blocks

def Item.htmlOf (kind : ListKind) : List Item -> Text
  | [] => []
  | .item passage nested :: items =>
      itemHtml kind passage (Block.htmlOf nested) ++ Item.htmlOf kind items

end

/-!
## Tags and roles
-/

theorem headingLevel?_eq_some {element : Text} {level : Nat} :
    Instruction.headingLevel? element = some level <->
      exists tag : HeadingTag, tag.text = element ∧ tag.level = level := by
  constructor
  · intro h
    unfold Instruction.headingLevel? at h
    split at h
    · rename_i digit hafter
      exact ⟨⟨digit, level, false, h⟩, (Text.eq_append_of_after? hafter).symm, rfl⟩
    · rename_i digit hafter
      exact ⟨⟨digit, level, true, h⟩, (Text.eq_append_of_after? hafter).symm, rfl⟩
    · cases h
  · rintro ⟨⟨digit, level, lineFeed, hvalue⟩, rfl, rfl⟩
    unfold Instruction.headingLevel? HeadingTag.text
    rw [Text.after?_append]
    cases lineFeed with
    | false => exact hvalue
    | true => exact hvalue

theorem roleOf_heading (tag : HeadingTag) :
    Instruction.roleOf tag.text = .heading tag.level := by
  have hlevel : Instruction.headingLevel? tag.text = some tag.level :=
    headingLevel?_eq_some.mpr ⟨tag, rfl, rfl⟩
  simp only [Instruction.roleOf, hlevel]

theorem roleOf_free (tag : FreeTag) : Instruction.roleOf tag.text = .free := by
  have hlevel : Instruction.headingLevel? tag.text = none := by
    apply Option.eq_none_iff_forall_ne_some.mpr
    intro level hsome
    rcases headingLevel?_eq_some.mp hsome with ⟨heading, htext, _⟩
    exact tag.ne_heading heading htext.symm
  simp only [Instruction.roleOf, hlevel]
  rw [if_neg tag.ne_over, if_neg tag.ne_back, if_neg tag.ne_item, if_neg tag.ne_nil]

/-- A block begins with an instruction that is no item. -/
theorem Block.exists_instructions (block : Block) :
    exists first rest, block.instructions = first :: rest ∧ first.role ≠ .item := by
  cases block with
  | heading tag passage =>
      refine ⟨_, _, rfl, ?_⟩
      have hrole : (passage.under tag.text).role = .heading tag.level := roleOf_heading tag
      rw [hrole]
      intro heq
      cases heq
  | free tag passage =>
      refine ⟨_, _, rfl, ?_⟩
      have hrole : (passage.under tag.text).role = .free := roleOf_free tag
      rw [hrole]
      decide
  | list start leading items finish =>
      refine ⟨_, _, rfl, ?_⟩
      have hrole : (start.under "over".toList).role = .over := rfl
      rw [hrole]
      decide

theorem listKind_of_role_ne_item {inst : Instruction} (h : inst.role ≠ .item) :
    listKind (some inst) = .bulleted := by
  apply if_neg
  rintro ⟨hitem, _⟩
  exact h hitem

/-- What follows the beginning of a list says which kind of list it is. -/
theorem listKind_eq_kindOfList (leading : List Block) (items : List Item)
    (finish : Passage) (rest : List Instruction) :
    listKind (Block.instructionsOf leading ++ (Item.instructionsOf items ++
      finish.under "back".toList :: rest)).head? = Block.kindOfList leading items := by
  cases leading with
  | cons block blocks =>
      rcases block.exists_instructions with ⟨first, others, heq, hrole⟩
      rw [Block.instructionsOf, heq]
      exact listKind_of_role_ne_item hrole
  | nil =>
      cases items with
      | nil => exact listKind_of_role_ne_item (by intro heq; cases heq)
      | cons item items =>
          cases item with
          | item passage nested =>
              have hrole : (passage.under "item".toList).role = .item := rfl
              change (if _ ∧ _ then _ else _) = (if _ then _ else _)
              simp only [hrole, true_and]
              rfl

/-!
## Pages of trees
-/

def printFrom (scopes : List Scope) (instructions : List Instruction) : Text :=
  Fragment.printAll (bodyFrom scopes instructions)

theorem printFrom_cons (scopes : List Scope) (inst : Instruction)
    (rest : List Instruction) :
    printFrom scopes (inst :: rest) =
      Fragment.printAll (step scopes inst rest.head?).1 ++
        (printContent inst.content ++ printFrom (step scopes inst rest.head?).2 rest) := by
  rw [printFrom, bodyFrom, Fragment.printAll_append, Fragment.printAll_append,
    List.append_assoc]
  rfl

theorem printFrom_heading (scopes : List Scope) (tag : HeadingTag) (passage : Passage)
    (rest : List Instruction) :
    printFrom scopes (passage.under tag.text :: rest) =
      headingHtml tag.level passage ++ printFrom scopes rest := by
  have hrole : (passage.under tag.text).role = .heading tag.level := roleOf_heading tag
  rw [printFrom_cons, step_of_heading _ _ hrole, Fragment.printAll_cons,
    Fragment.printAll_cons, Fragment.printAll_cons, Fragment.print_openHeading,
    Fragment.print_closeHeading]
  unfold headingHtml anchor
  simp [Fragment.print]

theorem printFrom_free (scopes : List Scope) (tag : FreeTag) (passage : Passage)
    (rest : List Instruction) :
    printFrom scopes (passage.under tag.text :: rest) =
      freeHtml tag.text passage ++ printFrom scopes rest := by
  have hrole : (passage.under tag.text).role = .free := roleOf_free tag
  rw [printFrom_cons, step_of_free _ _ hrole]
  unfold freeHtml
  simp [Fragment.print]

theorem printFrom_over (scopes : List Scope) (start : Passage) (rest : List Instruction) :
    printFrom scopes (start.under "over".toList :: rest) =
      Fragment.opening (listKind rest.head?).listTag ++ (printContent start.content ++
        printFrom (.list (listKind rest.head?) :: scopes) rest) := by
  have hrole : (start.under "over".toList).role = .over := rfl
  rw [printFrom_cons, step_of_over _ _ hrole]
  simp [Fragment.print]

def insideList (kind : ListKind) (entryOpen : Bool) (scopes : List Scope) : List Scope :=
  if entryOpen then .entry kind :: .list kind :: scopes else .list kind :: scopes

def endOfEntry (kind : ListKind) (entryOpen : Bool) : List Fragment :=
  if entryOpen then [.closeEntry kind] else []

theorem closeEntry_insideList (kind : ListKind) (entryOpen : Bool) (scopes : List Scope) :
    closeEntry (insideList kind entryOpen scopes) =
      (endOfEntry kind entryOpen, .list kind :: scopes) := by
  cases entryOpen with
  | false => rfl
  | true => rfl

theorem printFrom_back (kind : ListKind) (entryOpen : Bool) (scopes : List Scope)
    (finish : Passage) (rest : List Instruction) :
    printFrom (insideList kind entryOpen scopes) (finish.under "back".toList :: rest) =
      Fragment.printAll (endOfEntry kind entryOpen) ++ (Fragment.closing kind.listTag ++
        (printContent finish.content ++ printFrom scopes rest)) := by
  have hrole : (finish.under "back".toList).role = .back := rfl
  rw [printFrom_cons, step_of_back _ _ hrole, inTurn, closeEntry_insideList]
  simp [closeList, Fragment.print]

theorem printFrom_item (kind : ListKind) (entryOpen : Bool) (scopes : List Scope)
    (passage : Passage) (rest : List Instruction) :
    printFrom (insideList kind entryOpen scopes) (passage.under "item".toList :: rest) =
      Fragment.printAll (endOfEntry kind entryOpen) ++
        (Fragment.printAll (openEntry passage.title (.list kind :: scopes)).1 ++
          (printContent passage.content ++ printFrom (insideList kind true scopes) rest)) := by
  have hrole : (passage.under "item".toList).role = .item := rfl
  rw [printFrom_cons, step_of_item _ _ hrole, inTurn, closeEntry_insideList,
    Fragment.printAll_append, List.append_assoc]
  cases kind with
  | bulleted => rfl
  | definition => rfl

theorem itemHtml_eq (kind : ListKind) (passage : Passage) (nested : Text)
    (scopes : List Scope) :
    itemHtml kind passage nested =
      Fragment.printAll (openEntry passage.title (.list kind :: scopes)).1 ++
        (printContent passage.content ++ (nested ++
          Fragment.printAll (endOfEntry kind true))) := by
  unfold itemHtml
  cases kind with
  | bulleted =>
      simp [openEntry, endOfEntry, Fragment.print, Fragment.opening, Fragment.closing,
        ListKind.entryTag]
  | definition =>
      simp [openEntry, endOfEntry, Fragment.print, Fragment.opening, Fragment.closing,
        ListKind.entryTag]

theorem listHtml_eq (kind : ListKind) (start : Passage) (inner : Text) (finish : Passage) :
    listHtml kind start inner finish =
      Fragment.opening kind.listTag ++ (printContent start.content ++ (inner ++
        (Fragment.closing kind.listTag ++ printContent finish.content))) := by
  unfold listHtml
  cases kind with
  | bulleted => simp [Fragment.opening, Fragment.closing, ListKind.listTag]
  | definition => simp [Fragment.opening, Fragment.closing, ListKind.listTag]

-- The recursion follows the tree.  Blocks leave the open scopes as they are, whatever
-- these are and whatever follows; items are taken together with the end of their list,
-- because an entry is closed only by the item or the end after it.
mutual

theorem Block.printFrom_instructions (scopes : List Scope) (rest : List Instruction) :
    forall block : Block,
      printFrom scopes (block.instructions ++ rest) = block.html ++ printFrom scopes rest
  | .heading tag passage => printFrom_heading scopes tag passage rest
  | .free tag passage => printFrom_free scopes tag passage rest
  | .list start leading items finish => by
      have hkind := listKind_eq_kindOfList leading items finish rest
      have hleading := Block.printFrom_instructionsOf
        (.list (Block.kindOfList leading items) :: scopes)
        (Item.instructionsOf items ++ finish.under "back".toList :: rest) leading
      have hitems := Item.printFrom_instructionsOf (Block.kindOfList leading items) false
        scopes finish rest items
      have hflat : (Block.list start leading items finish).instructions ++ rest =
          start.under "over".toList :: (Block.instructionsOf leading ++
            (Item.instructionsOf items ++ finish.under "back".toList :: rest)) := by
        simp [Block.instructions]
      rw [hflat, printFrom_over, hkind, hleading]
      change _ ++ (_ ++ (_ ++ printFrom (insideList _ false scopes) _)) = _
      rw [hitems, Block.html, listHtml_eq]
      simp [endOfEntry]

theorem Block.printFrom_instructionsOf (scopes : List Scope) (rest : List Instruction) :
    forall blocks : List Block,
      printFrom scopes (Block.instructionsOf blocks ++ rest) =
        Block.htmlOf blocks ++ printFrom scopes rest
  | [] => rfl
  | block :: blocks => by
      rw [Block.instructionsOf, Block.htmlOf, List.append_assoc,
        Block.printFrom_instructions scopes _ block,
        Block.printFrom_instructionsOf scopes rest blocks, List.append_assoc]

theorem Item.printFrom_instructionsOf (kind : ListKind) (entryOpen : Bool)
    (scopes : List Scope) (finish : Passage) (rest : List Instruction) :
    forall items : List Item,
      printFrom (insideList kind entryOpen scopes)
          (Item.instructionsOf items ++ finish.under "back".toList :: rest) =
        Fragment.printAll (endOfEntry kind entryOpen) ++ (Item.htmlOf kind items ++
          (Fragment.closing kind.listTag ++
            (printContent finish.content ++ printFrom scopes rest)))
  | [] => by
      rw [Item.instructionsOf, List.nil_append, printFrom_back, Item.htmlOf]
      rfl
  | .item passage nested :: items => by
      have hnested := Block.printFrom_instructionsOf (insideList kind true scopes)
        (Item.instructionsOf items ++ finish.under "back".toList :: rest) nested
      have hitems := Item.printFrom_instructionsOf kind true scopes finish rest items
      rw [Item.instructionsOf, List.cons_append, List.append_assoc, printFrom_item, hnested,
        hitems, Item.htmlOf, itemHtml_eq kind passage _ scopes]
      simp

end

/-- The body of the instructions of a tree is the page of the tree. -/
theorem printBody_instructionsOf (blocks : List Block) :
    printBody (Block.instructionsOf blocks) = Block.htmlOf blocks := by
  have h := Block.printFrom_instructionsOf [] [] blocks
  rw [List.append_nil] at h
  rw [printBody, body]
  exact h.trans (List.append_nil _)

/-- The line feed matters: `head1` with one after it is not `head` and a digit, but the
page takes it for a heading and does not write it as a free tag. -/
theorem lineFeed_tag_not_free :
    let element := "head1\n".toList
    (element ≠ [] ∧ element ≠ "over".toList ∧ element ≠ "back".toList ∧
      element ≠ "item".toList ∧ forall digit : Char, element ≠ "head".toList ++ [digit]) ∧
    printBody [⟨element, "NAME".toList, []⟩] ≠ freeHtml element ⟨"NAME".toList, []⟩ := by
  refine ⟨⟨by decide, by decide, by decide, by decide, ?_⟩, by decide +kernel⟩
  intro digit heq
  cases heq

end Page
end PodManual
