import PodManual.Settings.EnvFile

/-!
# What a variable can influence

The settings are read from the environment and from the environment file, in which the
values of variables may refer to other variables.  So the value of one variable can reach
a setting that another variable holds, but only through the file.

Main statement: two environments that differ in the log level alone give the same settings
up to the level, unless the file gives another variable a value that refers to it.  This
holds of every environment file whose values are made of what they refer to, and so of
those that are read here.
-/

namespace PodManual

/-- The environments give every other variable the same value. -/
def Environment.AgreeBut (free : Text) (first second : Environment) : Prop :=
  forall name, name ≠ free -> first.lookup name = second.lookup name

/-- What an environment file adds is made of the values of the variables that it refers
to: a variable that the values of other variables do not refer to makes no difference to
the others. -/
structure EnvironmentFile.Refers (file : EnvironmentFile)
    (refers : FileTree -> Text -> Text -> Prop) : Prop where
  agreeBut : forall tree free first second added other,
    (forall name, name ≠ free -> ¬ refers tree name free) -> first.AgreeBut free second ->
    file tree first = .ok added -> file tree second = .ok other ->
    (first ++ added).AgreeBut free (second ++ other)

/-!
## Settings
-/

namespace Settings

/-- The settings are the same but for the level. -/
def SameButLevel (first second : Settings) : Prop :=
  second = { first with logLevel := second.logLevel }

theorem ofEnvironment_sameButLevel {first second : Environment} {settings other : Settings}
    (h : first.AgreeBut logLevelVariable second)
    (hfirst : ofEnvironment first = .ok settings)
    (hsecond : ofEnvironment second = .ok other) : settings.SameButLevel other := by
  have hpaths := h searchPathsVariable (by decide +kernel)
  have hdialects := h dialectsVariable (by decide +kernel)
  have hcontents := h noContentsVariable (by decide +kernel)
  unfold ofEnvironment at hfirst hsecond
  split at hfirst
  · cases hfirst
  · split at hsecond
    · cases hsecond
    · cases hfirst
      cases hsecond
      simp only [SameButLevel, hpaths, hdialects, hcontents]

theorem load_eq_ok {file : EnvironmentFile} {tree : FileTree} {environment : Environment}
    {settings : Settings} (h : load file tree environment true = .ok settings) :
    exists added, file tree environment = .ok added ∧
      ofEnvironment (environment ++ added) = .ok settings := by
  unfold load at h
  rw [if_pos rfl] at h
  cases hfile : file tree environment with
  | error failure =>
      rw [hfile] at h
      cases h
  | ok added =>
      rw [hfile] at h
      exact ⟨added, rfl, h⟩

theorem load_sameButLevel {file : EnvironmentFile} {refers : FileTree -> Text -> Text -> Prop}
    (hfile : file.Refers refers) {tree : FileTree} {first second : Environment}
    {settings other : Settings} (h : first.AgreeBut logLevelVariable second)
    (hfree : forall name, name ≠ logLevelVariable -> ¬ refers tree name logLevelVariable)
    (hfirst : load file tree first true = .ok settings)
    (hsecond : load file tree second true = .ok other) : settings.SameButLevel other := by
  rcases load_eq_ok hfirst with ⟨added, hadded, hsettings⟩
  rcases load_eq_ok hsecond with ⟨others, hothers, hother⟩
  exact ofEnvironment_sameButLevel
    (hfile.agreeBut tree _ first second added others hfree h hadded hothers) hsettings hother

end Settings

namespace EnvFile

/-!
## References
-/

/-- The names that a text refers to, in as many steps as resolving them takes. -/
def referencesFrom : Nat -> Text -> List Text
  | 0, _ => []
  | _ + 1, [] => []
  | bound + 1, '$' :: '\x7b' :: rest =>
      match reference? rest with
      | none => referencesFrom bound ('\x7b' :: rest)
      | some (name, _, rest) => name :: referencesFrom bound rest
  | bound + 1, _ :: rest => referencesFrom bound rest

def references (t : Text) : List Text :=
  referencesFrom t.length t

theorem resolveFrom_congr {get other : Text -> Option Text} {bound : Nat} {t : Text}
    (h : forall name, name ∈ referencesFrom bound t -> get name = other name) :
    resolveFrom get bound t = resolveFrom other bound t := by
  fun_induction referencesFrom bound t with
  | case1 => rfl
  | case2 => rfl
  | case3 bound rest hnone ih => rw [resolveFrom, resolveFrom, hnone, ih h]
  | case4 bound rest name standIn after hsome ih =>
      have hname := h name List.mem_cons_self
      have hafter := ih fun other hother => h other (List.mem_cons_of_mem _ hother)
      simp only [resolveFrom, hsome, hname, hafter]
  | case5 bound c rest hnot ih =>
      rw [resolveFrom, resolveFrom, ih h] <;> exact hnot

theorem resolve_congr {get other : Text -> Option Text} {t : Text}
    (h : forall name, name ∈ references t -> get name = other name) :
    resolve get t = resolve other t :=
  resolveFrom_congr h

/-!
## Assignments
-/

/-- No other variable is given a value that refers to the variable. -/
def KeepsToItself (free : Text) (assignments : List Assignment) : Prop :=
  forall name value, (name, some value) ∈ assignments -> name ≠ free ->
    free ∉ references value

theorem keepsToItself_iff {free : Text} {assignments : List Assignment} :
    KeepsToItself free assignments <->
      forall assignment, assignment ∈ assignments -> assignment.1 ≠ free ->
        forall value, value ∈ assignment.2 -> free ∉ references value := by
  constructor
  · intro h assignment hmem hname value hvalue
    apply h assignment.1 value ?_ hname
    rwa [← Option.mem_def.mp hvalue]
  · intro h name value hmem hname
    exact h (name, some value) hmem hname value rfl

instance (free : Text) (assignments : List Assignment) :
    Decidable (KeepsToItself free assignments) :=
  decidable_of_iff _ keepsToItself_iff.symm

def others (free : Text) (assignments : List Assignment) : List Assignment :=
  assignments.filter fun assignment => assignment.1 ≠ free

def replace (before : List Assignment) (name : Text) (value? : Option Text) :
    List Assignment :=
  before.map fun assignment =>
    if assignment.1 = name then (name, value?) else assignment

/-- The assignments after one more: it takes the place of an earlier one to its name. -/
def assign (before : List Assignment) (name : Text) (value? : Option Text) :
    List Assignment :=
  if before.any fun assignment => assignment.1 = name then replace before name value?
  else before ++ [(name, value?)]

theorem resolved_cons (environment : Environment) (before : List Assignment) (name : Text)
    (value? : Option Text) (rest : List Assignment) :
    resolved environment before ((name, value?) :: rest) =
      resolved environment
        (assign before name (value?.map (resolve (referent? environment before)))) rest :=
  rfl

theorem lookup_others {free name : Text} (h : name ≠ free) (assignments : List Assignment) :
    (others free assignments).lookup name = assignments.lookup name := by
  induction assignments with
  | nil => rfl
  | cons assignment rest ih =>
      rcases assignment with ⟨other, value?⟩
      unfold others at ih ⊢
      by_cases hother : other = free
      · have hne : (name == other) = false := by simpa [hother] using h
        rw [List.filter_cons_of_neg (by simpa using hother), ih, List.lookup_cons, hne]
      · rw [List.filter_cons_of_pos (by simpa using hother), List.lookup_cons,
          List.lookup_cons, ih]

theorem others_replace (free name : Text) (before : List Assignment) (value? : Option Text) :
    others free (replace before name value?) = replace (others free before) name value? := by
  unfold others replace
  rw [List.filter_map]
  congr 2
  funext assignment
  by_cases hname : assignment.1 = name
  · simp [hname]
  · simp [hname]

theorem replace_others_self (free : Text) (before : List Assignment) (value? : Option Text) :
    replace (others free before) free value? = others free before := by
  have hid : replace (others free before) free value? = (others free before).map id := by
    apply List.map_congr_left
    intro assignment hmem
    have hne : assignment.1 ≠ free := by simpa using (List.mem_filter.mp hmem).right
    rw [if_neg hne]
    rfl
  rw [hid, List.map_id]

theorem others_assign_self (free : Text) (before : List Assignment) (value? : Option Text) :
    others free (assign before free value?) = others free before := by
  unfold assign
  split
  · rw [others_replace, replace_others_self]
  · simp [others]

theorem others_assign_of_ne {free name : Text} (h : name ≠ free) (before : List Assignment)
    (value? : Option Text) :
    others free (assign before name value?) = assign (others free before) name value? := by
  have hany : (others free before).any (fun assignment => assignment.1 = name) =
      before.any fun assignment => assignment.1 = name := by
    unfold others
    rw [List.any_filter]
    grind
  unfold assign
  rw [hany]
  split
  · exact others_replace free name before value?
  · simp [others, h]

theorem others_resolved {free : Text} {first second : Environment}
    {assignments before before' : List Assignment}
    (henvironment : first.AgreeBut free second) (hkeeps : KeepsToItself free assignments)
    (hbefore : others free before = others free before') :
    others free (resolved first before assignments) =
      others free (resolved second before' assignments) := by
  induction assignments generalizing before before' with
  | nil => exact hbefore
  | cons assignment rest ih =>
      rcases assignment with ⟨name, value?⟩
      have hrest : KeepsToItself free rest := fun other value hmem =>
        hkeeps other value (List.mem_cons_of_mem _ hmem)
      rw [resolved_cons, resolved_cons]
      apply ih hrest
      by_cases hname : name = free
      · rw [hname, others_assign_self, others_assign_self, hbefore]
      · -- Only what the variable itself is assigned may differ between the two sides.
        have hreferent : forall other, other ≠ free ->
            referent? first before other = referent? second before' other := by
          intro other hother
          rw [referent?, referent?, henvironment other hother,
            ← lookup_others hother before, hbefore, lookup_others hother]
        have hvalue : value?.map (resolve (referent? first before)) =
            value?.map (resolve (referent? second before')) := by
          cases value? with
          | none => rfl
          | some value =>
              have hfree := hkeeps name value List.mem_cons_self hname
              rw [Option.map_some, Option.map_some, resolve_congr]
              intro other hother
              apply hreferent
              intro heq
              rw [heq] at hother
              exact hfree hother
        rw [hvalue, others_assign_of_ne hname, others_assign_of_ne hname, hbefore]

/-!
## The environment
-/

def firstValue? (name : Text) (assignments : List Assignment) : Option Text :=
  assignments.findSome? fun assignment =>
    if assignment.1 = name then assignment.2 else none

/-- A variable keeps the value of the environment, and gets the first value assigned to it
if it has none. -/
theorem lookup_additions {environment added ended : Environment}
    {assignments : List Assignment} (h : additions environment added assignments = .ok ended)
    (name : Text) :
    (environment ++ ended).lookup name =
      ((environment ++ added).lookup name).or (firstValue? name assignments) := by
  fun_induction additions environment added assignments with
  | case1 added =>
      cases h
      simp [firstValue?]
  | case2 added other rest ih =>
      rw [ih h]
      simp [firstValue?]
  | case3 added other value rest hany ih =>
      rw [ih h]
      by_cases hother : other = name
      · have hsome : ((environment ++ added).lookup name).isSome = true := by
          rcases List.any_eq_true.mp hany with ⟨binding, hmem, hname⟩
          apply List.lookup_isSome_iff.mpr
          exact ⟨binding, hmem, by simpa [hother] using Eq.symm (of_decide_eq_true hname)⟩
        rcases Option.isSome_iff_exists.mp hsome with ⟨found, hfound⟩
        rw [hfound]
        rfl
      · simp [firstValue?, hother]
  | case4 added other value rest hany hnull => cases h
  | case5 added other value rest hany hnull hequals => cases h
  | case6 added other value rest hany hnull hequals ih =>
      rw [ih h, ← List.append_assoc, List.lookup_append]
      cases (environment ++ added).lookup name with
      | some found => rfl
      | none =>
          by_cases hother : other = name
          · simp [firstValue?, hother]
          · have hne : (name == other) = false := by simpa using Ne.symm hother
            simp [firstValue?, hother, List.lookup_cons, hne]

theorem firstValue?_others {free name : Text} (h : name ≠ free)
    (assignments : List Assignment) :
    firstValue? name (others free assignments) = firstValue? name assignments := by
  unfold firstValue? others
  induction assignments with
  | nil => rfl
  | cons assignment rest ih =>
      by_cases hfree : assignment.1 = free
      · have hname : assignment.1 ≠ name := by
          rw [hfree]
          exact Ne.symm h
        rw [List.filter_cons_of_neg (by simpa using hfree), ih, List.findSome?_cons,
          if_neg hname]
      · rw [List.filter_cons_of_pos (by simpa using hfree), List.findSome?_cons, ih,
          List.findSome?_cons]

/-- The file gives a variable a value that refers to another. -/
def Mentions (tree : FileTree) (name free : Text) : Prop :=
  exists assignments value, read tree = .ok assignments ∧
    (name, some value) ∈ assignments ∧ free ∈ references value

theorem added_eq_ok {tree : FileTree} {environment ended : Environment}
    (h : added tree environment = .ok ended) :
    exists assignments, read tree = .ok assignments ∧
      additions environment [] (resolved environment [] assignments) = .ok ended := by
  unfold added at h
  cases hread : read tree with
  | error failure =>
      rw [hread] at h
      cases h
  | ok assignments =>
      rw [hread] at h
      exact ⟨assignments, rfl, h⟩

theorem added_refers : added.Refers Mentions where
  agreeBut := by
    intro tree free first second ended other hfree hagree hfirst hsecond name hname
    rcases added_eq_ok hfirst with ⟨assignments, hread, hended⟩
    rcases added_eq_ok hsecond with ⟨_, hagain, hother⟩
    rw [hread] at hagain
    cases hagain
    have hkeeps : KeepsToItself free assignments := fun owner value hmem howner hmentions =>
      hfree owner howner ⟨assignments, value, hread, hmem, hmentions⟩
    rw [lookup_additions hended, lookup_additions hother, List.append_nil, List.append_nil,
      hagree name hname, ← firstValue?_others hname, others_resolved hagree hkeeps rfl,
      firstValue?_others hname]

end EnvFile
end PodManual
