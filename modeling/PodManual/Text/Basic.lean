/-!
# Text

Text is a list of characters, so every operation on it is a recursion on a
list.  This module holds what does not depend on a class of characters:
cutting at a character, replacing, joining, ordering by code point and the
decimal text of a number.
-/

namespace PodManual

abbrev Text := List Char

/-- Texts are compared character by character. -/
instance : LawfulBEq Text := inferInstance

namespace Text

def ofNat (n : Nat) : Text :=
  Nat.toDigits 10 n

/-- Cut at every occurrence of a character; the pieces may be empty. -/
def cutAt (sep : Char) : Text -> List Text
  | [] => [[]]
  | c :: rest =>
      if c = sep then [] :: cutAt sep rest
      else
        match cutAt sep rest with
        | [] => [[c]]
        | piece :: pieces => (c :: piece) :: pieces

/-- The part before the first occurrence of a character, and the part after it
when there is one. -/
def cutFirst (sep : Char) : Text -> Text × Option Text
  | [] => ([], none)
  | c :: rest =>
      if c = sep then ([], some rest)
      else (c :: (cutFirst sep rest).1, (cutFirst sep rest).2)

def joinWith (sep : Text) : List Text -> Text
  | [] => []
  | [piece] => piece
  | piece :: next :: rest => piece ++ sep ++ joinWith sep (next :: rest)

def dropEnd (p : Char -> Bool) (t : Text) : Text :=
  (t.reverse.dropWhile p).reverse

def dropEnds (p : Char -> Bool) (t : Text) : Text :=
  dropEnd p (t.dropWhile p)

def after? : Text -> Text -> Option Text
  | [], t => some t
  | _ :: _, [] => none
  | b :: beginning, c :: t => if b = c then after? beginning t else none

def startsWith (t beginning : Text) : Bool :=
  (after? beginning t).isSome

/-- Order by code point, character by character; a beginning comes first. -/
def precedes : Text -> Text -> Bool
  | [], _ => true
  | _ :: _, [] => false
  | a :: s, b :: t =>
      if a = b then precedes s t else decide (a.toNat < b.toNat)

def sortedSet (texts : List Text) : List Text :=
  texts.eraseDups.mergeSort precedes

theorem cutAt_ne_nil (sep : Char) (t : Text) : cutAt sep t ≠ [] := by
  cases t with
  | nil => simp [cutAt]
  | cons c rest =>
      by_cases hc : c = sep
      · simp [cutAt, hc]
      · cases hrest : cutAt sep rest with
        | nil => simp [cutAt, hc, hrest]
        | cons piece pieces => simp [cutAt, hc, hrest]

theorem joinWith_cons_of_ne_nil (sep piece : Text) {pieces : List Text}
    (h : pieces ≠ []) :
    joinWith sep (piece :: pieces) = piece ++ sep ++ joinWith sep pieces := by
  cases pieces with
  | nil => exact absurd rfl h
  | cons next rest => rfl

theorem joinWith_cons_head (sep : Text) (c : Char) (piece : Text)
    (pieces : List Text) :
    joinWith sep ((c :: piece) :: pieces) = c :: joinWith sep (piece :: pieces) := by
  cases pieces with
  | nil => rfl
  | cons next rest => rfl

/-- Nothing is lost: the pieces make up the text, with the character between
them. -/
theorem joinWith_cutAt (sep : Char) (t : Text) :
    joinWith [sep] (cutAt sep t) = t := by
  induction t with
  | nil => rfl
  | cons c rest ih =>
      by_cases hc : c = sep
      · rw [hc, show cutAt sep (sep :: rest) = [] :: cutAt sep rest by simp [cutAt],
          joinWith_cons_of_ne_nil _ _ (cutAt_ne_nil sep rest), ih]
        rfl
      · cases hrest : cutAt sep rest with
        | nil => exact absurd hrest (cutAt_ne_nil sep rest)
        | cons piece pieces =>
            rw [hrest] at ih
            rw [show cutAt sep (c :: rest) = (c :: piece) :: pieces by
              simp [cutAt, hc, hrest], joinWith_cons_head, ih]

@[simp] theorem after?_append (beginning t : Text) :
    after? beginning (beginning ++ t) = some t := by
  induction beginning with
  | nil => rfl
  | cons b beginning ih => simp [after?, ih]

theorem eq_append_of_after? {beginning t rest : Text}
    (h : after? beginning t = some rest) : t = beginning ++ rest := by
  induction beginning generalizing t with
  | nil => simpa [after?] using h
  | cons b beginning ih =>
      cases t with
      | nil => simp [after?] at h
      | cons c t =>
          by_cases hbc : b = c
          · simp only [after?, hbc, if_true] at h
            rw [hbc, ih h]
            rfl
          · simp [after?, hbc] at h

end Text

end PodManual
