import PodManual.Text.Case

/-!
# Lower case of extensions

Changing the case of letters from A to Z does not change the lower case of a text: such
a letter has the same small letter in both cases, and it counts the same for the end of
a word.  A dot in front of a text stays, and the search for the end of a word looks
through it.  No other character becomes a dot.
-/

namespace PodManual
namespace Text

/-!
## Letters from A to Z
-/

theorem toLower_cases (c : Char) :
    c.toLower = c ∨ ((65 ≤ c.toNat ∧ c.toNat ≤ 90) ∧ c.toLower.toNat = c.toNat + 32) := by
  unfold Char.toLower
  split
  · rename_i hcapital
    have hbounds : 65 ≤ c.toNat ∧ c.toNat ≤ 90 := hcapital
    have hsmall : (c.val + ('a'.val - 'A'.val)).toNat = c.toNat + 32 := by
      rw [UInt32.toNat_add]
      show (c.toNat + 32) % 2 ^ 32 = c.toNat + 32
      omega
    exact Or.inr ⟨hbounds, hsmall⟩
  · exact Or.inl rfl

def IsLatin (c : Char) : Prop :=
  (65 ≤ c.toNat ∧ c.toNat ≤ 90) ∨ (97 ≤ c.toNat ∧ c.toNat ≤ 122)

theorem IsLatin.not_ignorable {c : Char} (h : IsLatin c) :
    inRanges caseIgnorableRanges c = false := by
  have hapart : (caseIgnorableRanges.all fun range =>
      decide ((90 < range.1 ∨ range.2 < 65) ∧ (122 < range.1 ∨ range.2 < 97))) = true := by
    decide +kernel
  apply List.any_eq_false.mpr
  intro range hrange
  have hoff := List.all_eq_true.mp hapart range hrange
  unfold IsLatin at h
  simp only [Bool.and_eq_true, decide_eq_true_eq] at hoff ⊢
  omega

theorem IsLatin.cased {c : Char} (h : IsLatin c) : inRanges casedRanges c = true := by
  apply List.any_eq_true.mpr
  rcases h with hcapital | hsmall
  · refine ⟨(0x41, 0x5A), List.mem_cons_self, ?_⟩
    simpa using hcapital
  · refine ⟨(0x61, 0x7A), List.mem_cons_of_mem _ List.mem_cons_self, ?_⟩
    simpa using hsmall

theorem IsLatin.ne {c d : Char} (h : IsLatin c) (hd : 122 < d.toNat) : c ≠ d := by
  rintro rfl
  unfold IsLatin at h
  omega

theorem smallLetter_capital {c : Char} (h : 65 ≤ c.toNat ∧ c.toNat ≤ 90) :
    smallLetter c = Char.ofNat (c.toNat + 32) := by
  have hfound : (capitalRuns.find? fun run => run.holds c.toNat) =
      some ⟨0x41, 0x5A, 1, 32⟩ := by
    apply List.find?_cons_of_pos
    simp [CapitalRun.holds, h, Nat.mod_one]
  simp only [smallLetter, hfound]
  rfl

theorem smallLetter_small {c : Char} (h : 97 ≤ c.toNat ∧ c.toNat ≤ 122) :
    smallLetter c = c := by
  have hapart : (capitalRuns.all fun run => decide (122 < run.first ∨ run.last < 97)) =
      true := by
    decide +kernel
  have hnone : (capitalRuns.find? fun run => run.holds c.toNat) = none := by
    apply List.find?_eq_none.mpr
    intro run hrun
    have hoff := List.all_eq_true.mp hapart run hrun
    simp only [CapitalRun.holds, Bool.and_eq_true, decide_eq_true_eq] at hoff ⊢
    omega
  simp only [smallLetter, hnone]

/-- The rules of lower case treat both characters alike. -/
structure SameCaseRules (c d : Char) : Prop where
  small_eq : smallLetter c = smallLetter d
  ignorable_eq : inRanges caseIgnorableRanges c = inRanges caseIgnorableRanges d
  cased_eq : inRanges casedRanges c = inRanges casedRanges d
  sigma_iff : c = 'Σ' <-> d = 'Σ'
  dotted_iff : c = 'İ' <-> d = 'İ'

theorem sameCaseRules_toLower (c : Char) : SameCaseRules c.toLower c := by
  rcases toLower_cases c with hself | ⟨hcapital, hsmall⟩
  · rw [hself]
    exact ⟨rfl, rfl, rfl, Iff.rfl, Iff.rfl⟩
  · have hbounds : 97 ≤ c.toLower.toNat ∧ c.toLower.toNat ≤ 122 := by omega
    have hown : IsLatin c := Or.inl hcapital
    have hlower : IsLatin c.toLower := Or.inr hbounds
    constructor
    · rw [smallLetter_small hbounds, smallLetter_capital hcapital, ← hsmall,
        Char.ofNat_toNat]
    · rw [hown.not_ignorable, hlower.not_ignorable]
    · rw [hown.cased, hlower.cased]
    · exact iff_of_false (hlower.ne (by decide)) (hown.ne (by decide))
    · exact iff_of_false (hlower.ne (by decide)) (hown.ne (by decide))

theorem meetsCased_map_toLower (t : Text) : meetsCased (t.map Char.toLower) = meetsCased t := by
  have hignorable : inRanges caseIgnorableRanges ∘ Char.toLower =
      inRanges caseIgnorableRanges :=
    funext fun c => (sameCaseRules_toLower c).ignorable_eq
  unfold meetsCased
  rw [List.dropWhile_map, hignorable]
  cases t.dropWhile (inRanges caseIgnorableRanges) with
  | nil => rfl
  | cons c rest => exact (sameCaseRules_toLower c).cased_eq

theorem lowerChar_toLower (before : Text) (c : Char) (rest : Text) :
    lowerChar (before.map Char.toLower) c.toLower (rest.map Char.toLower) =
      lowerChar before c rest := by
  have hrules := sameCaseRules_toLower c
  simp only [lowerChar, meetsCased_map_toLower, hrules.sigma_iff, hrules.dotted_iff,
    hrules.small_eq]

theorem lowerAfter_map_toLower (before t : Text) :
    lowerAfter (before.map Char.toLower) (t.map Char.toLower) = lowerAfter before t := by
  induction t generalizing before with
  | nil => rfl
  | cons c rest ih =>
      rw [List.map_cons, lowerAfter, lowerAfter, lowerChar_toLower, ← ih (c :: before)]
      rfl

theorem lower_eq_of_map_toLower {s t : Text} (h : s.map Char.toLower = t.map Char.toLower) :
    lower s = lower t := by
  calc
    lower s = lower (s.map Char.toLower) := (lowerAfter_map_toLower [] s).symm
    _ = lower (t.map Char.toLower) := by rw [h]
    _ = lower t := lowerAfter_map_toLower [] t

/-!
## Dots
-/

theorem meetsCased_append_dot (t : Text) : meetsCased (t ++ ['.']) = meetsCased t := by
  have hdot : ['.'].dropWhile (inRanges caseIgnorableRanges) = [] := by decide
  unfold meetsCased
  rw [List.dropWhile_append, hdot]
  cases t.dropWhile (inRanges caseIgnorableRanges) with
  | nil => rfl
  | cons c rest => rfl

theorem lowerAfter_append_dot (before t : Text) :
    lowerAfter (before ++ ['.']) t = lowerAfter before t := by
  induction t generalizing before with
  | nil => rfl
  | cons c rest ih =>
      rw [lowerAfter, lowerAfter, lowerChar, meetsCased_append_dot, ← lowerChar,
        ← List.cons_append, ih]

theorem lower_dot_cons (t : Text) : lower ('.' :: t) = '.' :: lower t := by
  have hdot : lowerChar [] '.' t = ['.'] := by
    have hsmall : smallLetter '.' = '.' := by decide +kernel
    rw [lowerChar, if_neg (by decide), if_neg (by decide), hsmall]
  rw [lower, lowerAfter, hdot, List.singleton_append]
  exact congrArg _ (lowerAfter_append_dot [] t)

theorem ofNat_ne {n : Nat} {c : Char} (hn : n ≠ c.toNat) (hc : c ≠ '\x00') :
    Char.ofNat n ≠ c := by
  rintro rfl
  by_cases hvalid : n.isValidChar
  · apply hn
    rw [Char.ofNat, dif_pos hvalid]
    rfl
  · apply hc
    rw [Char.ofNat, dif_neg hvalid]
    rfl

theorem smallLetter_ne_dot {c : Char} (h : c ≠ '.') : smallLetter c ≠ '.' := by
  have hruns : (capitalRuns.all fun run => decide ((46 : Int) < run.first + run.shift)) =
      true := by
    decide +kernel
  unfold smallLetter
  split
  · rename_i run hrun
    have hbound := List.all_eq_true.mp hruns run (List.mem_of_find?_eq_some hrun)
    have hholds := List.find?_some hrun
    simp only [CapitalRun.holds, Bool.and_eq_true, decide_eq_true_eq] at hbound hholds
    apply ofNat_ne
    · show _ ≠ 46
      omega
    · decide
  · exact h

theorem head?_lower_ne_dot {t : Text} (h : t.head? ≠ some '.') :
    (lower t).head? ≠ some '.' := by
  cases t with
  | nil => exact h
  | cons c rest =>
      have hc : c ≠ '.' := by
        rintro rfl
        exact h rfl
      have hhead : exists d others, lowerChar [] c rest = d :: others ∧ d ≠ '.' := by
        unfold lowerChar
        split
        · exact ⟨'σ', [], rfl, by decide⟩
        · split
          · exact ⟨'i', ['\u0307'], rfl, by decide⟩
          · exact ⟨smallLetter c, [], rfl, smallLetter_ne_dot hc⟩
      rcases hhead with ⟨d, others, hlower, hd⟩
      rw [lower, lowerAfter, hlower]
      exact fun heq => hd (Option.some.inj heq)

end Text
end PodManual
