import PodManual.Console.Markup

/-!
# Text that is printed as it is

What is put into a message is read for tags like the rest of it.  What a console does
with the markup is its own affair; what a message needs of it is that a heading in its
style comes out in front of the rest, that ordinary text comes out as it is, and that a
closing tag without an opening one is refused.
-/

namespace PodManual

namespace Console

def red : Text := ['r', 'e', 'd']

/-- A heading in its style, and a blank. -/
def inRed (heading : Text) : Text :=
  '[' :: red ++ ']' :: (heading ++ '[' :: ('/' :: red) ++ [']', ' '])

def isSpecial (c : Char) : Bool :=
  c == '[' || decide (c < ' ') || c == '\x7f'

/-- A blank stands between any two colons, so that no name between colons can mean a
picture; `seen` says that a colon stands before the text with no blank behind it. -/
def spacesColons (seen : Bool) : Text -> Bool
  | [] => true
  | c :: rest =>
      if c = ':' then !seen && spacesColons true rest
      else spacesColons (seen && c != ' ') rest

def isOrdinary (t : Text) : Bool :=
  t.all (fun c => !isSpecial c) && spacesColons false t

def isWording (heading : Text) : Bool :=
  isOrdinary heading && !heading.contains '\\'

/-- The text begins with a closing tag of a name in small letters. -/
def BeginsWithClosingTag (t : Text) : Prop :=
  exists name rest, name ≠ [] ∧ (name.all fun c => decide ('a' ≤ c ∧ c ≤ 'z')) = true ∧
    t = '[' :: '/' :: (name ++ ']' :: rest)

/-- The console reads markup.  The texts that it refuses are the same behind a heading as
alone, though it may tell of another position; tabs are left out, since how wide they are
depends on what stands before them. -/
structure ReadsMarkup (console : Console) : Prop where
  styled : forall heading t, isWording heading = true -> '\t' ∉ t ->
    (console.markup (inRed heading ++ t)).toOption =
      (console.markup t).toOption.map fun shown => heading ++ " ".toList ++ shown
  ordinary : forall t, isOrdinary t = true -> console.markup t = .ok t
  closing : forall t, BeginsWithClosingTag t ->
    exists failure, console.markup t = .error failure

theorem notMem_of_isOrdinary {t : Text} (h : isOrdinary t = true) {c : Char}
    (hspecial : isSpecial c = true) : c ∉ t := by
  intro hmem
  have hc := List.all_eq_true.mp (Bool.and_eq_true_iff.mp h).left c hmem
  rw [hspecial] at hc
  cases hc

namespace ReadsMarkup

variable {console : Console} {heading t : Text}

theorem markup_eq_ok (h : console.ReadsMarkup) (hheading : isWording heading = true)
    (htab : '\t' ∉ t) {shown : Text} :
    console.markup (inRed heading ++ t) = .ok shown <->
      exists later, console.markup t = .ok later ∧ shown = heading ++ " ".toList ++ later := by
  have hstyled := h.styled heading t hheading htab
  cases hall : console.markup (inRed heading ++ t) with
  | error failure =>
      cases hrest : console.markup t with
      | error other => simp
      | ok later =>
          rw [hall, hrest] at hstyled
          cases hstyled
  | ok whole =>
      cases hrest : console.markup t with
      | error other =>
          rw [hall, hrest] at hstyled
          cases hstyled
      | ok later =>
          rw [hall, hrest] at hstyled
          cases hstyled
          simp [eq_comm]

theorem markup_of_isOrdinary (h : console.ReadsMarkup) (hheading : isWording heading = true)
    (ht : isOrdinary t = true) :
    console.markup (inRed heading ++ t) = .ok (heading ++ " ".toList ++ t) :=
  (h.markup_eq_ok hheading (notMem_of_isOrdinary ht (by decide))).mpr
    ⟨t, h.ordinary t ht, rfl⟩

end ReadsMarkup
end Console

namespace Markup

open Console

/-!
## One token
-/

theorem tokens_skip (skip position slashes : Nat) (c : Char) (rest : Text) :
    tokens (skip + 1) position slashes (c :: rest) = tokens skip (position + 1) 0 rest := by
  rw [tokens]

theorem tokens_backslash (position slashes : Nat) (rest : Text) :
    tokens 0 position slashes ('\\' :: rest) =
      tokens 0 (position + 1) (slashes + 1) rest := by
  rw [tokens, if_pos rfl]

theorem tokens_tag (position slashes : Nat) {rest body : Text}
    (h : tagBody? rest = some body) :
    tokens 0 position slashes ('[' :: rest) =
      .text (backslashes (slashes / 2)) ::
        (if slashes % 2 = 1 then .text ('[' :: body ++ [']']) else .tag body position) ::
        tokens (body.length + 1) (position + 1) 0 rest := by
  rw [tokens, if_neg (by decide), if_pos rfl, h]

theorem tokens_bracket (position slashes : Nat) {rest : Text} (h : tagBody? rest = none) :
    tokens 0 position slashes ('[' :: rest) =
      .text (backslashes (slashes - 1) ++ ['[']) :: tokens 0 (position + 1) 0 rest := by
  rw [tokens, if_neg (by decide), if_pos rfl, h]

theorem tokens_other (position slashes : Nat) {c : Char} (rest : Text) (hslash : c ≠ '\\')
    (hbracket : c ≠ '[') :
    tokens 0 position slashes (c :: rest) =
      .text (backslashes slashes ++ [c]) :: tokens 0 (position + 1) 0 rest := by
  rw [tokens, if_neg hslash, if_neg hbracket]

theorem tokens_skip_append (inside rest : Text) (position : Nat) :
    tokens inside.length position 0 (inside ++ rest) =
      tokens 0 (position + inside.length) 0 rest := by
  induction inside generalizing position with
  | nil => rfl
  | cons c inside ih =>
      rw [List.length_cons, List.cons_append, tokens_skip, ih, Nat.add_right_comm, Nat.add_assoc]

/-!
## What is printed
-/

theorem printable_append (first second : Text) :
    printable (first ++ second) = printable first ++ printable second :=
  List.filter_append _ _

theorem printable_backslashes (count : Nat) :
    printable (backslashes count) = backslashes count := by
  apply List.filter_eq_self.mpr
  intro c hc
  rw [List.eq_of_mem_replicate hc]
  rfl

theorem printable_singleton {c : Char} (h : isConsoleControl c = false) :
    printable [c] = [c] := by
  simp [printable, h]

theorem plainFrom_text (tags : List OpenTag) (t : Text) (rest : List Token) :
    plainFrom tags (.text t :: rest) = (plainFrom tags rest).map (printable t ++ ·) := by
  rw [plainFrom]
  cases plainFrom tags rest <;> rfl

theorem isConsoleControl_of_isSpecial {c : Char} (h : isSpecial c = false) :
    isConsoleControl c = false := by
  rw [isSpecial, Bool.or_eq_false_iff, Bool.or_eq_false_iff, decide_eq_false_iff_not] at h
  have hblank : ¬ c < ' ' := h.left.right
  simp only [isConsoleControl, Bool.or_eq_false_iff, beq_eq_false_iff_ne]
  refine ⟨⟨⟨⟨?_, ?_⟩, ?_⟩, ?_⟩, ?_⟩ <;>
  · rintro rfl
    exact hblank (by decide)

theorem plainFrom_ordinary (tags : List OpenTag) {t : Text} (position slashes : Nat)
    (h : t.all (fun c => !isSpecial c) = true) :
    plainFrom tags (tokens 0 position slashes t) = .ok (backslashes slashes ++ t) := by
  induction t generalizing position slashes with
  | nil =>
      rw [tokens, plainFrom_text, plainFrom, printable_backslashes]
      rfl
  | cons c rest ih =>
      rw [List.all_cons, Bool.and_eq_true, Bool.not_eq_true'] at h
      rcases h with ⟨hc, hrest⟩
      by_cases hslash : c = '\\'
      · rw [hslash, tokens_backslash, ih (position + 1) (slashes + 1) hrest]
        simp [backslashes, List.replicate_succ']
      · have hbracket : c ≠ '[' := by
          rintro rfl
          cases hc
        rw [tokens_other _ _ rest hslash hbracket, plainFrom_text, ih (position + 1) 0 hrest,
          printable_append, printable_backslashes,
          printable_singleton (isConsoleControl_of_isSpecial hc)]
        simp [Except.map, backslashes]

/-!
## Tags
-/

def afterTag (tags : List OpenTag) (body : Text) (position : Nat) :
    Except Failure (List OpenTag) :=
  match (Text.cutFirst '=' body).1 with
  | '/' :: name => closeTag body position name tags
  | _ => (openTag body).map fun tag => tag :: tags

theorem plainFrom_cons_tag (tags : List OpenTag) (body : Text) (position : Nat)
    (parts : List Token) :
    plainFrom tags (.tag body position :: parts) =
      (afterTag tags body position).bind fun next => plainFrom next parts := by
  rw [plainFrom]
  split
  · rename_i next hnext
    have hafter : afterTag tags body position = .ok next := hnext
    rw [hafter, Except.bind]
  · rename_i failure hfails
    have hafter : afterTag tags body position = .error failure := hfails
    rw [hafter, Except.bind]

theorem plainFrom_tag (tags : List OpenTag) {body rest : Text}
    (h : tagBody? (body ++ ']' :: rest) = some body) (position : Nat) :
    plainFrom tags (tokens 0 position 0 ('[' :: body ++ ']' :: rest)) =
      (afterTag tags body position).bind fun next =>
        plainFrom next (tokens 0 (position + (body.length + 2)) 0 rest) := by
  have hskip : tokens (body.length + 1) (position + 1) 0 (body ++ ']' :: rest) =
      tokens 0 (position + (body.length + 2)) 0 rest := by
    have hinside := tokens_skip_append (body ++ [']']) rest (position + 1)
    rw [List.length_append, List.length_singleton, List.append_assoc,
      List.singleton_append] at hinside
    rw [hinside]
    congr 1
    omega
  rw [List.cons_append, tokens_tag _ _ h, plainFrom_text, if_neg (by decide),
    plainFrom_cons_tag, hskip]
  cases afterTag tags body position with
  | error failure => rfl
  | ok next =>
      change (plainFrom next _).map ([] ++ ·) = plainFrom next _
      cases plainFrom next _ <;> rfl

/-- No closing tag closes anything while no tag is open. -/
theorem exists_afterTag_eq_error (name : Text) (position : Nat) :
    exists failure, afterTag [] ('/' :: name) position = .error failure := by
  have hclosing : forall body inside, exists failure,
      closing body position inside [] = .error failure := by
    intro body inside
    unfold closing
    split
    · exact ⟨_, rfl⟩
    · rename_i hnil
      cases hnil
    · split
      · exact ⟨_, rfl⟩
      · exact ⟨_, rfl⟩
  unfold afterTag
  have hcut : (Text.cutFirst '=' ('/' :: name)).1 = '/' :: (Text.cutFirst '=' name).1 := by
    rw [Text.cutFirst, if_neg (by decide)]
  rw [hcut]
  rcases hclosing ('/' :: name) (Text.cutFirst '=' name).1 with ⟨failure, hfails⟩
  refine ⟨failure, ?_⟩
  simp only [closeTag, hfails]

theorem afterTag_closeRed (position : Nat) :
    afterTag [⟨red, []⟩] ('/' :: red) position = .ok [] := by
  have hcut : (Text.cutFirst '=' ('/' :: red)).1 = '/' :: red := by decide
  have hstrip : Text.strip red = red := by decide +kernel
  have hnormal : Style.normalForm red = .ok red := eq_ok_of_toOption (by decide +kernel)
  have hfound : takeOut red [⟨red, []⟩] = some (⟨red, []⟩, []) := by decide
  have hclosing : closing ('/' :: red) position red [⟨red, []⟩] = .ok (⟨red, []⟩, []) := by
    unfold closing
    rw [hstrip]
    unfold red at hnormal hfound ⊢
    simp only [hnormal, hfound]
  unfold afterTag
  rw [hcut]
  unfold closeTag
  simp only [hclosing]
  rfl

/-!
## Positions

Only failures tell positions apart.
-/

theorem toOption_afterTag (tags : List OpenTag) (body : Text) (position other : Nat) :
    (afterTag tags body position).toOption = (afterTag tags body other).toOption := by
  have hclosing : forall name,
      (closing body position name tags).toOption = (closing body other name tags).toOption := by
    intro name
    unfold closing
    split
    · rfl
    · rfl
    · split
      · rfl
      · split <;> rfl
  unfold afterTag closeTag
  split
  · rename_i name _
    have hname := hclosing name
    cases hfirst : closing body position name tags with
    | error failure =>
        cases hsecond : closing body other name tags with
        | error last => rfl
        | ok pair =>
            rw [hfirst, hsecond] at hname
            cases hname
    | ok pair =>
        cases hsecond : closing body other name tags with
        | error last =>
            rw [hfirst, hsecond] at hname
            cases hname
        | ok last =>
            rw [hfirst, hsecond] at hname
            cases hname
            rfl
  · rfl

theorem toOption_map {ε α β : Type} (result : Except ε α) (f : α -> β) :
    (result.map f).toOption = result.toOption.map f := by
  cases result <;> rfl

theorem toOption_bind {ε α β : Type} (result : Except ε α) (f : α -> Except ε β) :
    (result.bind f).toOption = result.toOption.bind fun a => (f a).toOption := by
  cases result <;> rfl

theorem toOption_plainFrom (tags : List OpenTag) (t : Text)
    (skip position other slashes : Nat) :
    (plainFrom tags (tokens skip position slashes t)).toOption =
      (plainFrom tags (tokens skip other slashes t)).toOption := by
  -- Positions are handed on to the rest, so the induction is over any two of them.
  induction t generalizing tags skip position other slashes with
  | nil =>
      rw [tokens, tokens]
  | cons c rest ih =>
      cases skip with
      | succ skip =>
          rw [tokens_skip, tokens_skip]
          exact ih tags skip (position + 1) (other + 1) 0
      | zero =>
          by_cases hslash : c = '\\'
          · rw [hslash, tokens_backslash, tokens_backslash]
            exact ih tags 0 (position + 1) (other + 1) (slashes + 1)
          · by_cases hbracket : c = '['
            · subst hbracket
              cases hbody : tagBody? rest with
              | none =>
                  rw [tokens_bracket _ _ hbody, tokens_bracket _ _ hbody, plainFrom_text,
                    plainFrom_text, toOption_map, toOption_map,
                    ih tags 0 (position + 1) (other + 1) 0]
              | some body =>
                  rw [tokens_tag _ _ hbody, tokens_tag _ _ hbody, plainFrom_text,
                    plainFrom_text, toOption_map, toOption_map]
                  congr 1
                  split
                  · rw [plainFrom_text, plainFrom_text, toOption_map, toOption_map,
                      ih tags _ (position + 1) (other + 1) 0]
                  · rw [plainFrom_cons_tag, plainFrom_cons_tag, toOption_bind, toOption_bind,
                      toOption_afterTag tags body position other]
                    congr 1
                    funext next
                    exact ih next _ (position + 1) (other + 1) 0
            · rw [tokens_other _ _ rest hslash hbracket, tokens_other _ _ rest hslash hbracket,
                plainFrom_text, plainFrom_text, toOption_map, toOption_map,
                ih tags 0 (position + 1) (other + 1) 0]

/-!
## The console of the program
-/

theorem plainFrom_wording (tags : List OpenTag) {heading : Text}
    (h : (heading.all fun c => !isSpecial c && c != '\\') = true) (position : Nat)
    (rest : Text) :
    plainFrom tags (tokens 0 position 0 (heading ++ rest)) =
      (plainFrom tags (tokens 0 (position + heading.length) 0 rest)).map (heading ++ ·) := by
  induction heading generalizing position with
  | nil =>
      rw [List.nil_append, List.length_nil, Nat.add_zero]
      cases plainFrom tags (tokens 0 position 0 rest) <;> rfl
  | cons c heading ih =>
      rw [List.all_cons, Bool.and_eq_true] at h
      rcases h with ⟨hc, hheading⟩
      rw [Bool.and_eq_true, Bool.not_eq_true', bne_iff_ne] at hc
      rcases hc with ⟨hspecial, hslash⟩
      have hbracket : c ≠ '[' := by
        rintro rfl
        cases hspecial
      rw [List.cons_append, tokens_other _ _ _ hslash hbracket, plainFrom_text,
        ih hheading, printable_append, printable_backslashes,
        printable_singleton (isConsoleControl_of_isSpecial hspecial),
        List.length_cons, Nat.add_right_comm, Nat.add_assoc]
      cases plainFrom tags (tokens 0 (position + (heading.length + 1)) 0 rest) <;> rfl

theorem all_of_isWording {heading : Text} (h : isWording heading = true) :
    (heading.all fun c => !isSpecial c && c != '\\') = true := by
  rw [isWording, isOrdinary, Bool.and_eq_true, Bool.and_eq_true, Bool.not_eq_true',
    List.contains_eq_mem, decide_eq_false_iff_not] at h
  rcases h with ⟨⟨hspecial, _⟩, hslash⟩
  apply List.all_eq_true.mpr
  intro c hc
  rw [Bool.and_eq_true, bne_iff_ne]
  refine ⟨List.all_eq_true.mp hspecial c hc, ?_⟩
  rintro rfl
  exact hslash hc

theorem plain_inRed {heading : Text} (h : isWording heading = true) (t : Text) :
    plain (inRed heading ++ t) =
      (plainFrom [] (tokens 0 (heading.length + 12) 0 t)).map (heading ++ " ".toList ++ ·) := by
  have hopen : afterTag [] red 0 = .ok [⟨red, []⟩] := eq_ok_of_toOption (by decide +kernel)
  have hmarkup : inRed heading ++ t =
      '[' :: red ++ ']' :: (heading ++ ('[' :: ('/' :: red) ++ ']' :: ([' '] ++ t))) := by
    simp [inRed]
  unfold plain
  rw [hmarkup, plainFrom_tag [] rfl, hopen, Except.bind, plainFrom_wording _ (all_of_isWording h),
    plainFrom_tag _ rfl, afterTag_closeRed, Except.bind, plainFrom_wording [] (by decide)]
  have hposition : 0 + (red.length + 2) + heading.length + (('/' :: red).length + 2) +
      [' '].length = heading.length + 12 := by
    simp only [red, List.length_cons, List.length_nil]
    omega
  rw [hposition]
  cases plainFrom [] (tokens 0 (heading.length + 12) 0 t) with
  | error failure => rfl
  | ok shown => simp [Except.map]

theorem tagBody?_closing {name : Text}
    (h : (name.all fun c => decide ('a' ≤ c ∧ c ≤ 'z')) = true) (rest : Text) :
    tagBody? (('/' :: name) ++ ']' :: rest) = some ('/' :: name) := by
  have hname : upToBracket (name ++ ']' :: rest) = some name := by
    induction name with
    | nil => rfl
    | cons c name ih =>
        rw [List.all_cons, Bool.and_eq_true, decide_eq_true_eq] at h
        rcases h with ⟨hc, hrest⟩
        have hclose : c ≠ ']' := by
          rintro rfl
          exact absurd hc (by decide)
        have hopen : c ≠ '[' := by
          rintro rfl
          exact absurd hc (by decide)
        rw [List.cons_append, upToBracket, if_neg hclose, if_neg hopen, ih hrest]
        rfl
  rw [List.cons_append, tagBody?, if_pos (by decide), hname]
  rfl

theorem console_readsMarkup : console.ReadsMarkup where
  styled heading t h _ := by
    change (plain (inRed heading ++ t)).toOption = (plain t).toOption.map _
    rw [plain_inRed h, toOption_map, plain, toOption_plainFrom [] t 0 (heading.length + 12) 0 0]
  ordinary t h := plainFrom_ordinary [] 0 0 (Bool.and_eq_true_iff.mp h).left
  closing := by
    rintro t ⟨name, rest, _, hname, rfl⟩
    rcases exists_afterTag_eq_error name 0 with ⟨failure, hfails⟩
    refine ⟨failure, ?_⟩
    have htag := plainFrom_tag [] (tagBody?_closing hname rest) 0
    rw [hfails] at htag
    exact htag

end Markup
end PodManual
