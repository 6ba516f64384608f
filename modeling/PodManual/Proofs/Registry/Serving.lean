import Mathlib.Data.List.Induction
import PodManual.Proofs.Text.Case
import PodManual.Registry

/-!
# Dialects found by extension

A registry keeps an extension in lower case, with the dots that it was declared with.  A
look-up goes by the lower case without the dots in front.  So an extension declared with
a dot in front is kept where no look-up comes.

Main statement: any other declared extension leads to the last dialect that declares it,
with or without a dot in front and in any case of its letters from A to Z; what no
dialect declares leads to the default dialect.
-/

namespace PodManual

/-- The dialect declares an extension of the given lower case. -/
def Dialect.serves (form : Text) (dialect : Dialect) : Bool :=
  dialect.extensions.any fun own => Text.lower own == form

namespace Registry

/-- The last of the dialects that declare an extension of the given lower case. -/
def lastServing? (dialects : List Dialect) (form : Text) : Option Dialect :=
  (dialects.filter (Dialect.serves form)).getLast?

/-!
## Entries
-/

theorem find?_entriesOf (dialect : Dialect) (form : Text) :
    ((entriesOf dialect).reverse.find? fun entry => entry.1 == form).map Prod.snd =
      if dialect.serves form then some dialect else none := by
  cases hfound : (entriesOf dialect).reverse.find? fun entry => entry.1 == form with
  | none =>
      have hserves : dialect.serves form = false := by
        apply List.any_eq_false.mpr
        intro own hown
        have hentry : (Text.lower own, dialect) ∈ (entriesOf dialect).reverse :=
          List.mem_reverse.mpr (List.mem_map_of_mem hown)
        exact List.find?_eq_none.mp hfound _ hentry
      rw [hserves]
      rfl
  | some entry =>
      have hform := List.find?_some hfound
      have hentry := List.mem_reverse.mp (List.mem_of_find?_eq_some hfound)
      rcases List.mem_map.mp hentry with ⟨own, hown, rfl⟩
      have hserves : dialect.serves form = true := List.any_eq_true.mpr ⟨own, hown, hform⟩
      rw [hserves]
      rfl

theorem lastServing?_concat (dialects : List Dialect) (dialect : Dialect) (form : Text) :
    lastServing? (dialects ++ [dialect]) form =
      (if dialect.serves form then some dialect else none).or (lastServing? dialects form) := by
  rw [lastServing?, List.filter_append, List.getLast?_append, List.filter_cons]
  cases dialect.serves form with
  | true => rfl
  | false => rfl

/-- The entries are kept latest first, so the first one found is that of the last
dialect. -/
theorem find?_entries (dialects : List Dialect) (form : Text) :
    ((dialects.flatMap entriesOf).reverse.find? fun entry => entry.1 == form).map Prod.snd =
      lastServing? dialects form := by
  induction dialects using List.reverseRecOn with
  | nil => rfl
  | append_singleton dialects dialect ih =>
      rw [List.flatMap_append, List.flatMap_singleton, List.reverse_append, List.find?_append,
        Option.map_or, find?_entriesOf, ih, lastServing?_concat]

section

variable {dialects : List Dialect} {default? : Option Dialect} {registry : Registry}

theorem eq_of_ofDialects (h : ofDialects dialects default? = .ok registry) :
    registry = ⟨(dialects.flatMap entriesOf).reverse, default?⟩ := by
  simp only [ofDialects] at h
  split at h
  · cases h
  · cases h
    rfl

theorem forExtension_eq (h : ofDialects dialects default? = .ok registry) (query : Text) :
    registry.forExtension query =
      match (lastServing? dialects (normalForm query)).or default? with
      | some dialect => .ok dialect
      | none => .error (.noDialectFor query) := by
  rw [eq_of_ofDialects h, forExtension, registered?, find?_entries]
  cases lastServing? dialects (normalForm query) with
  | some dialect => rfl
  | none => rfl

theorem forExtension_eq_ok_iff (h : ofDialects dialects default? = .ok registry)
    (query : Text) (found : Dialect) :
    registry.forExtension query = .ok found <->
      (lastServing? dialects (normalForm query)).or default? = some found := by
  rw [forExtension_eq h]
  cases (lastServing? dialects (normalForm query)).or default? with
  | none => simp
  | some dialect => simp

end

theorem exists_lastServing? {dialects : List Dialect} {dialect : Dialect}
    (hdialect : dialect ∈ dialects) {extension : Text}
    (h : extension ∈ dialect.extensions) :
    exists last, lastServing? dialects (Text.lower extension) = some last := by
  have hserves : dialect.serves (Text.lower extension) = true :=
    List.any_eq_true.mpr ⟨extension, h, beq_self_eq_true _⟩
  have hmem : dialect ∈ dialects.filter (Dialect.serves (Text.lower extension)) :=
    List.mem_filter.mpr ⟨hdialect, hserves⟩
  exact ⟨_, List.getLast?_eq_some_getLast (List.ne_nil_of_mem hmem)⟩

theorem lastServing?_eq_none {dialects : List Dialect} {form : Text}
    (h : forall dialect, dialect ∈ dialects -> dialect.serves form = false) :
    lastServing? dialects form = none := by
  apply List.getLast?_eq_none_iff.mpr
  apply List.filter_eq_nil_iff.mpr
  intro dialect hdialect
  rw [h dialect hdialect]
  exact Bool.false_ne_true

/-!
## Forms of extensions
-/

theorem normalForm_of_undotted {extension : Text} (h : extension.head? ≠ some '.') :
    normalForm extension = Text.lower extension := by
  have hhead := Text.head?_lower_ne_dot h
  rw [normalForm]
  cases hlower : Text.lower extension with
  | nil => rfl
  | cons c rest =>
      rw [hlower] at hhead
      apply List.dropWhile_cons_of_neg
      intro hdot
      exact hhead (congrArg some (beq_iff_eq.mp hdot))

theorem normalForm_dot_cons (extension : Text) :
    normalForm ('.' :: extension) = normalForm extension := by
  rw [normalForm, Text.lower_dot_cons]
  rfl

theorem normalForm_of_map_toLower {extension other : Text}
    (h : other.map Char.toLower = extension.map Char.toLower) :
    normalForm other = normalForm extension := by
  rw [normalForm, Text.lower_eq_of_map_toLower h, normalForm]

/-!
## Look-ups
-/

/-- An extension that is declared without a dot in front leads to the last dialect that
declares it, in whatever case; so do the extension with a dot in front and with letters
from A to Z in another case.  What is declared by no dialect leads to the default one.
An extension that is declared with a dot in front is found only where the extension
without its dots leads to the same dialect. -/
theorem forExtension_finds_last {dialects : List Dialect} {default? : Option Dialect}
    {registry : Registry} (h : ofDialects dialects default? = .ok registry) :
    (forall (dialect : Dialect) (extension : Text), dialect ∈ dialects ->
      extension ∈ dialect.extensions -> extension.head? ≠ some '.' ->
      exists last, lastServing? dialects (Text.lower extension) = some last ∧
        registry.forExtension extension = .ok last ∧
        registry.forExtension ('.' :: extension) = .ok last ∧
        forall other : Text, other.map Char.toLower = extension.map Char.toLower ->
          registry.forExtension other = .ok last) ∧
    (forall query : Text,
      (forall dialect, dialect ∈ dialects -> dialect.serves (normalForm query) = false) ->
      (forall fallback, default? = some fallback ->
        registry.forExtension query = .ok fallback) ∧
      (default? = none -> registry.forExtension query = .error (.noDialectFor query))) ∧
    forall (extension : Text) (last : Dialect),
      lastServing? dialects (Text.lower extension) = some last ->
      (registry.forExtension extension = .ok last <->
        extension.head? ≠ some '.' ∨
          (lastServing? dialects (normalForm extension)).or default? = some last) := by
  have hfound : forall {query extension : Text} {last : Dialect},
      extension.head? ≠ some '.' -> normalForm query = normalForm extension ->
      lastServing? dialects (Text.lower extension) = some last ->
      registry.forExtension query = .ok last := by
    intro query extension last hundotted hform hlast
    rw [forExtension_eq_ok_iff h, hform, normalForm_of_undotted hundotted, hlast]
    rfl
  refine ⟨?_, ?_, ?_⟩
  · intro dialect extension hdialect hextension hundotted
    rcases exists_lastServing? hdialect hextension with ⟨last, hlast⟩
    refine ⟨last, hlast, hfound hundotted rfl hlast,
      hfound hundotted (normalForm_dot_cons extension) hlast, ?_⟩
    intro other hother
    exact hfound hundotted (normalForm_of_map_toLower hother) hlast
  · intro query hnone
    rw [forExtension_eq h, lastServing?_eq_none hnone]
    constructor
    · rintro fallback rfl
      rfl
    · rintro rfl
      rfl
  · intro extension last hlast
    rw [forExtension_eq_ok_iff h]
    constructor
    · exact Or.inr
    · rintro (hundotted | hsame)
      · exact (forExtension_eq_ok_iff h _ _).mp (hfound hundotted rfl hlast)
      · exact hsame

def early : Dialect :=
  ⟨.js, "early".toList, ["TS".toList, "tsx".toList]⟩

/-- A dialect that declares an extension of the other one again, in other case. -/
def late : Dialect :=
  ⟨.plain, "late".toList, ["Ts".toList]⟩

theorem late_is_found :
    exists registry, ofDialects [early, late] none = .ok registry ∧
      "TS".toList ∈ early.extensions ∧
      registry.forExtension "TS".toList = .ok late ∧
      registry.forExtension ".TS".toList = .ok late ∧
      registry.forExtension "ts".toList = .ok late ∧
      registry.forExtension "TXT".toList = .error (.noDialectFor "TXT".toList) := by
  have hregistry : ofDialects [early, late] none =
      .ok ⟨([early, late].flatMap entriesOf).reverse, none⟩ :=
    eq_ok_of_toOption (by decide +kernel)
  have hlate : lastServing? [early, late] (Text.lower "TS".toList) = some late := by
    decide +kernel
  rcases forExtension_finds_last hregistry with ⟨hdeclared, hother, _⟩
  rcases hdeclared early "TS".toList (by decide) (by decide) (by decide) with
    ⟨last, hlast, hown, hdot, hcase⟩
  rw [hlate] at hlast
  cases hlast
  refine ⟨_, hregistry, by decide, hown, hdot, hcase _ (by decide), ?_⟩
  exact (hother "TXT".toList (by decide +kernel)).right rfl

def dotted : Dialect :=
  ⟨.js, "ts".toList, [".ts".toList]⟩

theorem dotted_is_not_found :
    exists registry, ofDialects [dotted] none = .ok registry ∧
      ".ts".toList ∈ dotted.extensions ∧
      registry.forExtension ".ts".toList = .error (.noDialectFor ".ts".toList) := by
  refine ⟨⟨[(".ts".toList, dotted)], none⟩, eq_ok_of_toOption (by decide +kernel), by decide,
    ?_⟩
  have hnone : registered? ⟨[(".ts".toList, dotted)], none⟩ (normalForm ".ts".toList) = none := by
    decide +kernel
  rw [forExtension, hnone]

end Registry
end PodManual
