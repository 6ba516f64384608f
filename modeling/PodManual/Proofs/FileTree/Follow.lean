import PodManual.FileTree.Lookup

/-!
# Where a path leads

A path is followed from place to place.  This module says once what one look-up
can do, and what that makes of a whole path: a path along names that are not `..`
leads to the entry that the names describe, and a look-up is refused in exactly two
cases, when the path or one of the names that are reached is too long, and when one of
the directories that are reached may not be searched.
-/

namespace PodManual

namespace Entry

theorem descend_append (first second : List Text) (node : Entry) :
    node.descend (first ++ second) = (node.descend first).bind (descend second) := by
  induction first generalizing node with
  | nil => rfl
  | cons name first ih =>
      cases node with
      | file file => rfl
      | directory access listing =>
          rw [List.cons_append, descend, descend]
          cases listing.get? name with
          | none => rfl
          | some next => exact ih next

end Entry

namespace FileTree

variable {tree : FileTree}

/-!
## One look-up
-/

theorem barrier?_eq_none {place : Place} :
    tree.barrier? place = none <->
      exists access listing, tree.entryAt? place = some (.directory access listing) ∧
        access.search = true := by
  unfold barrier?
  cases tree.entryAt? place with
  | none => simp
  | some node =>
      cases node with
      | file file => simp
      | directory access listing => simp

theorem barrier?_eq_denied {place : Place} :
    tree.barrier? place = some .denied <->
      exists access listing, tree.entryAt? place = some (.directory access listing) ∧
        access.search = false := by
  unfold barrier?
  cases tree.entryAt? place with
  | none => simp
  | some node =>
      cases node with
      | file file => simp
      | directory access listing => simp

theorem barrier?_ne_nameTooLong {place : Place} :
    tree.barrier? place ≠ some .nameTooLong := by
  unfold barrier?
  cases tree.entryAt? place with
  | none => simp
  | some node =>
      cases node with
      | file file => simp
      | directory access listing => simp

theorem enter_of_barrier {place : Place} {fault : FileFault}
    (h : tree.barrier? place = some fault) (name : Text) :
    tree.enter place name = .error fault := by
  simp only [enter, h]

theorem enter_parent {place : Place} (h : tree.barrier? place = none) :
    tree.enter place "..".toList = .ok place.parent := by
  simp only [enter, h, if_true]

theorem enter_long {place : Place} {name : Text} (h : tree.barrier? place = none)
    (hname : name ≠ "..".toList) (hlong : maxNameSize < Utf8.size name) :
    tree.enter place name = .error .nameTooLong := by
  simp only [enter, h, if_neg hname, if_pos hlong]

theorem enter_name {place : Place} {name : Text} (h : tree.barrier? place = none)
    (hname : name ≠ "..".toList) (hshort : ¬ maxNameSize < Utf8.size name) :
    tree.enter place name =
      if (tree.entryAt? (place.child name)).isSome then .ok (place.child name)
      else .error .missing := by
  simp only [enter, h, if_neg hname, if_neg hshort]
  cases tree.entryAt? (place.child name) with
  | none => rfl
  | some node => rfl

theorem enter_eq_ok {place next : Place} {name : Text} :
    tree.enter place name = .ok next <->
      tree.barrier? place = none ∧
        ((name = "..".toList ∧ next = place.parent) ∨
          (name ≠ "..".toList ∧ Utf8.size name ≤ maxNameSize ∧ next = place.child name ∧
            (tree.entryAt? (place.child name)).isSome = true)) := by
  constructor
  · intro h
    cases hbarrier : tree.barrier? place with
    | some fault =>
        rw [enter_of_barrier hbarrier] at h
        cases h
    | none =>
        refine ⟨rfl, ?_⟩
        by_cases hname : name = "..".toList
        · rw [hname, enter_parent hbarrier] at h
          cases h
          exact Or.inl ⟨hname, rfl⟩
        · by_cases hlong : maxNameSize < Utf8.size name
          · rw [enter_long hbarrier hname hlong] at h
            cases h
          · rw [enter_name hbarrier hname hlong] at h
            split at h
            · rename_i hentry
              cases h
              exact Or.inr ⟨hname, Nat.le_of_not_lt hlong, rfl, hentry⟩
            · cases h
  · rintro ⟨hbarrier, ⟨rfl, rfl⟩ | ⟨hname, hshort, rfl, hentry⟩⟩
    · exact enter_parent hbarrier
    · rw [enter_name hbarrier hname (Nat.not_lt.mpr hshort), if_pos hentry]

theorem enter_eq_nameTooLong {place : Place} {name : Text} :
    tree.enter place name = .error .nameTooLong <->
      tree.barrier? place = none ∧ name ≠ "..".toList ∧
        maxNameSize < Utf8.size name := by
  constructor
  · intro h
    cases hbarrier : tree.barrier? place with
    | some fault =>
        rw [enter_of_barrier hbarrier] at h
        cases h
        exact absurd hbarrier barrier?_ne_nameTooLong
    | none =>
        refine ⟨rfl, ?_⟩
        by_cases hname : name = "..".toList
        · rw [hname, enter_parent hbarrier] at h
          cases h
        · refine ⟨hname, ?_⟩
          by_cases hlong : maxNameSize < Utf8.size name
          · exact hlong
          · rw [enter_name hbarrier hname hlong] at h
            split at h <;> cases h
  · rintro ⟨hbarrier, hname, hlong⟩
    exact enter_long hbarrier hname hlong

theorem enter_eq_denied {place : Place} {name : Text} :
    tree.enter place name = .error .denied <-> tree.barrier? place = some .denied := by
  constructor
  · intro h
    cases hbarrier : tree.barrier? place with
    | some fault =>
        rw [enter_of_barrier hbarrier] at h
        cases h
        rfl
    | none =>
        by_cases hname : name = "..".toList
        · rw [hname, enter_parent hbarrier] at h
          cases h
        · by_cases hlong : maxNameSize < Utf8.size name
          · rw [enter_long hbarrier hname hlong] at h
            cases h
          · rw [enter_name hbarrier hname hlong] at h
            split at h <;> cases h
  · intro hbarrier
    exact enter_of_barrier hbarrier name

/-!
## Whole paths
-/

theorem follow_append (place : Place) (first second : List Text) :
    tree.follow place (first ++ second) =
      match tree.follow place first with
      | .error fault => .error fault
      | .ok next => tree.follow next second := by
  induction first generalizing place with
  | nil => rfl
  | cons name first ih =>
      rw [List.cons_append, follow, follow]
      cases tree.enter place name with
      | error fault => rfl
      | ok next => exact ih next

theorem follow_append_eq_ok {place last : Place} {first second : List Text} :
    tree.follow place (first ++ second) = .ok last <->
      exists middle, tree.follow place first = .ok middle ∧
        tree.follow middle second = .ok last := by
  rw [follow_append]
  cases tree.follow place first with
  | error fault => simp
  | ok middle => simp

theorem follow_cons_eq_ok {place last : Place} {name : Text} {names : List Text} :
    tree.follow place (name :: names) = .ok last <->
      exists next, tree.enter place name = .ok next ∧ tree.follow next names = .ok last := by
  rw [follow]
  cases tree.enter place name with
  | error fault => simp
  | ok next => simp

theorem follow_eq_error {place : Place} {names : List Text} {fault : FileFault} :
    tree.follow place names = .error fault <->
      exists before name after middle, names = before ++ name :: after ∧
        tree.follow place before = .ok middle ∧
        tree.enter middle name = .error fault := by
  constructor
  · intro h
    induction names generalizing place with
    | nil => cases h
    | cons name names ih =>
        rw [follow] at h
        cases henter : tree.enter place name with
        | error other =>
            rw [henter] at h
            cases h
            exact ⟨[], name, names, place, rfl, rfl, henter⟩
        | ok next =>
            rw [henter] at h
            rcases ih h with ⟨before, last, after, middle, rfl, hbefore, hlast⟩
            refine ⟨name :: before, last, after, middle, rfl, ?_, hlast⟩
            exact follow_cons_eq_ok.mpr ⟨next, henter, hbefore⟩
  · rintro ⟨before, name, after, middle, rfl, hbefore, hlast⟩
    rw [follow_append, hbefore]
    simp only [follow, hlast]

/-!
## Entries below a place
-/

theorem entryAt?_within_append (above names : List Text) :
    tree.entryAt? (.within (names.reverse ++ above)) =
      (tree.entryAt? (.within above)).bind (Entry.descend names) := by
  simp only [entryAt?, FileTree.entry?, List.reverse_append, List.reverse_reverse,
    Entry.descend_append]

theorem entryAt?_child {place : Place} {access : Access} {listing : Listing}
    (h : tree.entryAt? place = some (.directory access listing)) (name : Text) :
    tree.entryAt? (place.child name) = listing.get? name := by
  have happend : tree.entryAt? (.within ([name].reverse ++ place.names)) =
      (tree.entryAt? (.within place.names)).bind (Entry.descend [name]) :=
    entryAt?_within_append place.names [name]
  rw [List.reverse_singleton, List.singleton_append] at happend
  change tree.entryAt? (place.child name) = (tree.entryAt? place).bind _ at happend
  rw [happend, h, Option.bind_some, Entry.descend]
  cases listing.get? name with
  | none => rfl
  | some node => rfl

/-!
## Look-ups that are refused
-/

/-- The path cannot be looked up: it is too long as a whole, or it leads through
directories to a name that is too long, or into a directory that may not be searched. -/
inductive Refuses (tree : FileTree) (path : Path) : FileFault -> Prop where
  | tooLong : path.isTooLong = true -> Refuses tree path .nameTooLong
  | closedStart : path.isTooLong = false -> tree.start path = .error .denied ->
      Refuses tree path .denied
  | longName {first place : Place} {before after : List Text} {name : Text} :
      path.isTooLong = false -> tree.start path = .ok first ->
      path.parts = before ++ name :: after -> tree.follow first before = .ok place ->
      tree.barrier? place = none -> name ≠ "..".toList -> maxNameSize < Utf8.size name ->
      Refuses tree path .nameTooLong
  | closedDirectory {first place : Place} {before after : List Text} {name : Text} :
      path.isTooLong = false -> tree.start path = .ok first ->
      path.parts = before ++ name :: after -> tree.follow first before = .ok place ->
      tree.barrier? place = some .denied -> Refuses tree path .denied

theorem start_ne_nameTooLong (path : Path) : tree.start path ≠ .error .nameTooLong := by
  unfold start
  cases path.root with
  | relative =>
      cases hbarrier : tree.barrier? tree.workingDirectory with
      | none => simp
      | some fault =>
          simp only [ne_eq, Except.error.injEq]
          rintro rfl
          exact barrier?_ne_nameTooLong hbarrier
  | slash => simp
  | doubleSlash => simp

theorem locate_eq_error {path : Path} {fault : FileFault} :
    tree.locate path = .error fault <->
      (path.isTooLong = true ∧ fault = .nameTooLong) ∨
      (path.isTooLong = false ∧
        (tree.start path = .error fault ∨
          exists first before name after place, tree.start path = .ok first ∧
            path.parts = before ++ name :: after ∧
            tree.follow first before = .ok place ∧
            tree.enter place name = .error fault)) := by
  unfold locate
  cases path.isTooLong with
  | true => simp [eq_comm]
  | false =>
      cases tree.start path with
      | error other => simp
      | ok first => simp [follow_eq_error]

theorem locate_eq_nameTooLong {path : Path} :
    tree.locate path = .error .nameTooLong <-> tree.Refuses path .nameTooLong := by
  rw [locate_eq_error]
  constructor
  · rintro (⟨hlong, _⟩ | ⟨hshort, hstart | hfollow⟩)
    · exact .tooLong hlong
    · exact absurd hstart (start_ne_nameTooLong path)
    · rcases hfollow with ⟨first, before, name, after, place, hstart, hparts, hbefore, hname⟩
      rcases enter_eq_nameTooLong.mp hname with ⟨hbarrier, hparent, hsize⟩
      exact .longName hshort hstart hparts hbefore hbarrier hparent hsize
  · intro h
    cases h with
    | tooLong hlong => exact Or.inl ⟨hlong, rfl⟩
    | longName hshort hstart hparts hbefore hbarrier hparent hsize =>
        exact Or.inr ⟨hshort, Or.inr ⟨_, _, _, _, _, hstart, hparts, hbefore,
          enter_long hbarrier hparent hsize⟩⟩

theorem locate_eq_denied {path : Path} :
    tree.locate path = .error .denied <-> tree.Refuses path .denied := by
  rw [locate_eq_error]
  constructor
  · rintro (⟨_, hfault⟩ | ⟨hshort, hstart | hfollow⟩)
    · cases hfault
    · exact .closedStart hshort hstart
    · rcases hfollow with ⟨first, before, name, after, place, hstart, hparts, hbefore, hname⟩
      exact .closedDirectory hshort hstart hparts hbefore (enter_eq_denied.mp hname)
  · intro h
    cases h with
    | closedStart hshort hstart => exact Or.inr ⟨hshort, Or.inl hstart⟩
    | closedDirectory hshort hstart hparts hbefore hbarrier =>
        exact Or.inr ⟨hshort, Or.inr ⟨_, _, _, _, _, hstart, hparts, hbefore,
          enter_of_barrier hbarrier _⟩⟩

/-- Looking for something at the path fails, with a fault. -/
def Fails (tree : FileTree) (path : Path) (fault : FileFault) : Prop :=
  path.hasNull = false ∧ tree.Refuses path fault

/-- The only failure of a look-up is a refused path. -/
theorem placeOf?_eq_error_iff {path : Path} {failure : Failure} :
    tree.placeOf? path = .error failure <->
      exists fault, tree.Fails path fault ∧ failure = .file fault path.toText := by
  have hfaults : forall fault, tree.Refuses path fault ->
      tree.locate path = .error fault := by
    intro fault hrefuses
    cases fault with
    | nameTooLong => exact locate_eq_nameTooLong.mpr hrefuses
    | denied => exact locate_eq_denied.mpr hrefuses
    | missing => cases hrefuses
    | notDirectory => cases hrefuses
    | isDirectory => cases hrefuses
    | alreadyThere => cases hrefuses
  unfold Fails placeOf?
  -- Every other fault means that nothing is there.
  cases path.hasNull with
  | true => simp
  | false =>
      simp only [Bool.false_eq_true, if_false, true_and]
      constructor
      · intro h
        cases hlocate : tree.locate path with
        | ok place => simp [hlocate] at h
        | error fault =>
            cases fault with
            | nameTooLong =>
                simp only [hlocate, Except.error.injEq] at h
                exact ⟨_, locate_eq_nameTooLong.mp hlocate, h.symm⟩
            | denied =>
                simp only [hlocate, Except.error.injEq] at h
                exact ⟨_, locate_eq_denied.mp hlocate, h.symm⟩
            | missing => simp [hlocate] at h
            | notDirectory => simp [hlocate] at h
            | isDirectory => simp [hlocate] at h
            | alreadyThere => simp [hlocate] at h
      · rintro ⟨fault, hrefuses, rfl⟩
        rw [hfaults fault hrefuses]
        cases hrefuses <;> rfl

theorem fileAt?_eq_error_iff {path : Path} {failure : Failure} :
    tree.fileAt? path = .error failure <->
      exists fault, tree.Fails path fault ∧ failure = .file fault path.toText := by
  rw [← placeOf?_eq_error_iff]
  unfold fileAt?
  cases tree.placeOf? path with
  | error other => simp
  | ok place? =>
      cases place? with
      | none => simp
      | some place =>
          simp only [reduceCtorEq, iff_false]
          split <;> simp

theorem fails_iff {path : Path} {fault : FileFault} :
    tree.Fails path fault <-> tree.fileAt? path = .error (.file fault path.toText) := by
  rw [fileAt?_eq_error_iff]
  simp

theorem isFile_eq_error_iff {path : Path} {failure : Failure} :
    tree.isFile path = .error failure <->
      exists fault, tree.Fails path fault ∧ failure = .file fault path.toText := by
  rw [← fileAt?_eq_error_iff]
  unfold isFile
  cases tree.fileAt? path with
  | error other => simp
  | ok file? => simp

theorem isDirectory_eq_error_iff {path : Path} {failure : Failure} :
    tree.isDirectory path = .error failure <->
      exists fault, tree.Fails path fault ∧ failure = .file fault path.toText := by
  rw [← placeOf?_eq_error_iff]
  unfold isDirectory
  cases tree.placeOf? path with
  | error other => simp
  | ok place? =>
      cases place? with
      | none => simp
      | some place =>
          simp only [reduceCtorEq, iff_false]
          split <;> simp

theorem fileAt?_eq_some {path : Path} {file : File} :
    tree.fileAt? path = .ok (some file) <->
      path.hasNull = false ∧
        exists place, tree.locate path = .ok place ∧
          tree.entryAt? place = some (.file file) := by
  unfold fileAt? placeOf?
  cases path.hasNull with
  | true => simp
  | false =>
      cases hlocate : tree.locate path with
      | error fault => cases fault <;> simp
      | ok place =>
          simp only [Bool.false_eq_true, if_false, Except.ok.injEq, exists_eq_left',
            true_and]
          cases hentry : tree.entryAt? place with
          | none => simp
          | some node => cases node <;> simp

end FileTree
end PodManual
