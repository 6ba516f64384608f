import Mathlib.Data.List.Infix
import PodManual.Dependency.Declared

/-!
# Sections of dependencies

A heading titled `Dependencies` begins a section, and the nearest heading or end of list
after it ends the section.  So an item lies in a section if the nearest heading or end of
list before it is such a heading.  A reader that keeps one flag sees this differently
where one such heading follows another: the second ends the section of the first and
begins none.

Main statement: the declared names are the names of the items before which the flag is
set, that is, before which an odd number of such headings follow one another; and they
are the names of all items in sections exactly if no item lies in a section whose heading
was taken for an end.
-/

namespace PodManual
namespace Dependency

/-- The headings and ends of lists among instructions, the nearest to the end first. -/
def boundaries (before : List Instruction) : List Instruction :=
  (before.filter endsSection).reverse

/-- What comes next lies in a section: the nearest boundary heads one. -/
def isInSection (before : List Instruction) : Bool :=
  (boundaries before).head?.any opensSection

/-- What comes next is listed: of the headings that follow one another up to here, every
second one ends the section of the one before it. -/
def isListed (before : List Instruction) : Bool :=
  ((boundaries before).takeWhile opensSection).length % 2 == 1

/-- The instruction is an item after instructions that are as they should be. -/
def isItemAfter (selects : List Instruction -> Bool)
    (place : List Instruction × Instruction) : Bool :=
  place.2.element == "item".toList && selects place.1

def places (instructions : List Instruction) : List (List Instruction × Instruction) :=
  instructions.inits.zip instructions

/-- The names of the items after instructions that are as they should be. -/
def namesAfter (selects : List Instruction -> Bool) (instructions : List Instruction) :
    List Text :=
  ((places instructions).filter (isItemAfter selects)).map fun place => nameOf place.2.title

/-!
## The flag
-/

/-- The reader's flag after an instruction: a heading of dependencies turns it, any other
boundary clears it, and nothing else touches it. -/
def flagAfter (inst : Instruction) (flag : Bool) : Bool :=
  if opensSection inst then !flag
  else if endsSection inst then false
  else flag

theorem endsSection_of_opensSection {inst : Instruction} (h : opensSection inst = true) :
    endsSection inst = true := by
  rw [opensSection, Instruction.isSection, Bool.and_eq_true] at h
  rw [endsSection, h.left, Bool.or_true]

theorem endsSection_of_item {inst : Instruction} (h : inst.element = "item".toList) :
    endsSection inst = false := by
  rw [endsSection, h]
  decide +kernel

theorem declaredFrom_cons (flag : Bool) (inst : Instruction) (rest : List Instruction) :
    declaredFrom flag (inst :: rest) =
      (if inst.element == "item".toList && flag then [nameOf inst.title] else []) ++
        declaredFrom (flagAfter inst flag) rest := by
  cases flag with
  | false =>
      rw [declaredFrom, Bool.and_false, flagAfter]
      cases opensSection inst <;> simp
  | true =>
      rw [declaredFrom, Bool.and_true, flagAfter]
      cases hends : endsSection inst with
      | true =>
          have hitem : inst.element ≠ "item".toList := by
            intro hitem
            rw [endsSection_of_item hitem] at hends
            cases hends
          rw [if_pos rfl, beq_false_of_ne hitem]
          cases opensSection inst <;> rfl
      | false =>
          have hopens : opensSection inst = false := by
            by_contra hnot
            rw [endsSection_of_opensSection (by simpa using hnot)] at hends
            cases hends
          rw [hopens]
          by_cases hitem : inst.element = "item".toList
          · rw [if_pos hitem, hitem]
            rfl
          · rw [if_neg hitem, beq_false_of_ne hitem]
            rfl

theorem boundaries_concat (before : List Instruction) (inst : Instruction) :
    boundaries (before ++ [inst]) =
      if endsSection inst then inst :: boundaries before else boundaries before := by
  cases h : endsSection inst with
  | true => simp [boundaries, h]
  | false => simp [boundaries, h]

/-- The flag counts, modulo two, the headings that follow one another. -/
theorem isListed_concat (before : List Instruction) (inst : Instruction) :
    isListed (before ++ [inst]) = flagAfter inst (isListed before) := by
  unfold isListed flagAfter
  rw [boundaries_concat]
  cases hopens : opensSection inst with
  | true =>
      rw [if_pos (endsSection_of_opensSection hopens), List.takeWhile_cons_of_pos hopens]
      grind
  | false =>
      cases hends : endsSection inst with
      | true =>
          rw [if_pos rfl, List.takeWhile_cons_of_neg (by simp [hopens])]
          rfl
      | false => rfl

/-!
## What is declared
-/

def placesFrom (before rest : List Instruction) : List (List Instruction × Instruction) :=
  (rest.inits.map (before ++ ·)).zip rest

theorem placesFrom_cons (before : List Instruction) (inst : Instruction)
    (rest : List Instruction) :
    placesFrom before (inst :: rest) =
      (before, inst) :: placesFrom (before ++ [inst]) rest := by
  simp [placesFrom, Function.comp_def]

theorem placesFrom_nil (instructions : List Instruction) :
    placesFrom [] instructions = places instructions := by
  simp [placesFrom, places]

-- The induction is on what is still to be read; what has been read decides the flag.
theorem declaredFrom_isListed (before rest : List Instruction) :
    declaredFrom (isListed before) rest =
      ((placesFrom before rest).filter (isItemAfter isListed)).map
        fun place => nameOf place.2.title := by
  induction rest generalizing before with
  | nil => cases isListed before <;> rfl
  | cons inst rest ih =>
      rw [declaredFrom_cons, ← isListed_concat, ih, placesFrom_cons, List.filter_cons,
        isItemAfter]
      cases inst.element == "item".toList && isListed before with
      | true => rfl
      | false => rfl

theorem declared_eq_namesAfter (instructions : List Instruction) :
    declared instructions = namesAfter isListed instructions := by
  rw [namesAfter, ← placesFrom_nil, ← declaredFrom_isListed]
  rfl

/-!
## Sections in which nothing is listed
-/

theorem mem_placesFrom {before rest earlier : List Instruction} {inst : Instruction} :
    (earlier, inst) ∈ placesFrom before rest <->
      exists between after, earlier = before ++ between ∧ rest = between ++ inst :: after := by
  induction rest generalizing before with
  | nil => simp [placesFrom]
  | cons first rest ih =>
      rw [placesFrom_cons, List.mem_cons, ih]
      constructor
      · rintro (heq | ⟨between, after, rfl, rfl⟩)
        · cases heq
          exact ⟨[], rest, by simp, rfl⟩
        · exact ⟨first :: between, after, by simp, rfl⟩
      · rintro ⟨between, after, rfl, hrest⟩
        cases between with
        | nil =>
            cases hrest
            exact Or.inl (by simp)
        | cons second between =>
            cases hrest
            exact Or.inr ⟨between, after, by simp, rfl⟩

theorem mem_places {instructions before : List Instruction} {inst : Instruction} :
    (before, inst) ∈ places instructions <->
      exists after, instructions = before ++ inst :: after := by
  rw [← placesFrom_nil, mem_placesFrom]
  simp

theorem isInSection_of_isListed {before : List Instruction} (h : isListed before = true) :
    isInSection before = true := by
  unfold isListed at h
  unfold isInSection
  cases hnearest : boundaries before with
  | nil => simp [hnearest] at h
  | cons inst rest =>
      cases hopens : opensSection inst with
      | true => simp [hopens]
      | false => simp [hnearest, hopens] at h

theorem isItemAfter_iff {selects : List Instruction -> Bool}
    {place : List Instruction × Instruction} :
    isItemAfter selects place = true <->
      place.2.element = "item".toList ∧ selects place.1 = true := by
  rw [isItemAfter, Bool.and_eq_true, beq_iff_eq]

/-- The listed items are found among the items in sections. -/
theorem filter_isListed (instructions : List Instruction) :
    (places instructions).filter (isItemAfter isListed) =
      ((places instructions).filter (isItemAfter isInSection)).filter
        (isItemAfter isListed) := by
  rw [List.filter_filter]
  apply List.filter_congr
  intro place _
  cases hlisted : isItemAfter isListed place with
  | false => rfl
  | true =>
      rcases isItemAfter_iff.mp hlisted with ⟨hitem, hbefore⟩
      rw [isItemAfter_iff.mpr ⟨hitem, isInSection_of_isListed hbefore⟩]
      rfl

theorem namesAfter_isListed_eq_iff (instructions : List Instruction) :
    namesAfter isListed instructions = namesAfter isInSection instructions <->
      forall before inst after, instructions = before ++ inst :: after ->
        inst.element = "item".toList -> isInSection before = true ->
          isListed before = true := by
  constructor
  · intro heq before inst after hinstructions hitem hsection
    have hlength := congrArg List.length heq
    rw [namesAfter, namesAfter, List.length_map, List.length_map, filter_isListed,
      List.length_filter_eq_length_iff] at hlength
    have hmem : (before, inst) ∈ (places instructions).filter (isItemAfter isInSection) :=
      List.mem_filter.mpr
        ⟨mem_places.mpr ⟨after, hinstructions⟩, isItemAfter_iff.mpr ⟨hitem, hsection⟩⟩
    exact (isItemAfter_iff.mp (hlength _ hmem)).right
  · intro hall
    have hself : ((places instructions).filter (isItemAfter isInSection)).filter
        (isItemAfter isListed) = (places instructions).filter (isItemAfter isInSection) := by
      apply List.filter_eq_self.mpr
      rintro ⟨before, inst⟩ hmem
      rcases List.mem_filter.mp hmem with ⟨hplace, hselected⟩
      rcases mem_places.mp hplace with ⟨after, hinstructions⟩
      rcases isItemAfter_iff.mp hselected with ⟨hitem, hsection⟩
      exact isItemAfter_iff.mpr
        ⟨hitem, hall before inst after hinstructions hitem hsection⟩
    rw [namesAfter, namesAfter, filter_isListed, hself]

/-- The declared names are those of the listed items, in order.  They are the names of
all items in sections exactly if every item in a section is listed. -/
theorem declared_eq_listed_names (instructions : List Instruction) :
    declared instructions = namesAfter isListed instructions ∧
    (declared instructions = namesAfter isInSection instructions <->
      forall before inst after, instructions = before ++ inst :: after ->
        inst.element = "item".toList -> isInSection before = true ->
          isListed before = true) := by
  rw [declared_eq_namesAfter]
  exact ⟨rfl, namesAfter_isListed_eq_iff instructions⟩

def headedTwice : List Instruction :=
  [⟨"head1".toList, "Dependencies".toList, []⟩, ⟨"head2".toList, "Dependencies".toList, []⟩,
   ⟨"item".toList, "A".toList, []⟩]

-- The item lies in the section of the second heading, which ended the first section.
theorem headedTwice_declares_nothing :
    declared headedTwice = [] ∧ namesAfter isInSection headedTwice = ["A".toList] := by
  decide +kernel

end Dependency
end PodManual
