import CodeSurvey.Text.Lower

/-!
# Small letters in a context

Only one character looks around it to find its small form, the capital sigma, and it becomes one of
two small sigmas. If these two are taken for one, the small form of a text is made of the small
forms of its characters. So a word without a sigma that occurs in the small form of a part of a text
also occurs in the small form of the text.

## Main definitions

* `Text.joinSigmas c`: the character with both small sigmas made one.
* `Text.lowerEach t`: the small forms of the characters, each for itself, with one small sigma.
-/

namespace CodeSurvey
namespace Text

/-- The small sigma at the end of a word. -/
def finalSigma : Char := Char.ofNat 0x3C2

/-- The small sigma elsewhere. -/
def innerSigma : Char := Char.ofNat 0x3C3

/-- Both small sigmas are taken for one. -/
def joinSigmas (c : Char) : Char := if c = finalSigma then innerSigma else c

/-- The small forms of the characters, each for itself, with one small sigma. -/
def lowerEach (t : Text) : Text := t.flatMap fun c => (lowerAt [] c []).map joinSigmas

/-- What stands around a character decides which small sigma it becomes, if it becomes one. -/
theorem map_lowerAt (before : Text) (c : Char) (after : Text) :
    (lowerAt before c after).map joinSigmas = (lowerAt [] c []).map joinSigmas := by
  have hfinal : joinSigmas (Char.ofNat 0x3C2) = innerSigma := by decide
  have hinner : joinSigmas (Char.ofNat 0x3C3) = innerSigma := by decide
  unfold lowerAt
  split
  · rfl
  · split
    · split <;> split <;> simp [hfinal, hinner]
    · rfl

theorem map_lowerFrom (before done t : Text) :
    (lowerFrom before done t).map joinSigmas = done.reverse.map joinSigmas ++ lowerEach t := by
  induction t generalizing before done with
  | nil => simp [lowerFrom, lowerEach]
  | cons c t ih =>
      have heach : lowerEach (c :: t) = (lowerAt before c t).map joinSigmas ++ lowerEach t := by
        rw [map_lowerAt before c t]
        rfl
      rw [lowerFrom, ih, heach]
      simp

theorem map_lower (t : Text) : (lower t).map joinSigmas = lowerEach t := map_lowerFrom [] [] t

theorem lowerAt_of_ascii {c : Char} (hc : c.toNat < 0x80) (before after : Text) :
    lowerAt before c after = [c.toLower] := by
  rw [lowerAt, if_neg (by simp; omega), if_neg (by simp; omega), lowerChar, if_pos hc]

theorem lowerFrom_of_ascii {t : Text} (ht : ∀ c ∈ t, c.toNat < 0x80) (before done : Text) :
    lowerFrom before done t = done.reverse ++ t.map Char.toLower := by
  induction t generalizing before done with
  | nil => simp [lowerFrom]
  | cons c t ih =>
      rw [lowerFrom, lowerAt_of_ascii (ht c List.mem_cons_self),
        ih fun d hd => ht d (List.mem_cons_of_mem _ hd)]
      simp

/-- The small form of an ASCII text has the small letters of its characters. -/
theorem lower_of_ascii {t : Text} (ht : ∀ c ∈ t, c.toNat < 0x80) : lower t = t.map Char.toLower :=
  lowerFrom_of_ascii ht [] []

/-- Every character has a small form. -/
theorem lower_eq_nil_iff {t : Text} : lower t = [] ↔ t = [] := by
  refine ⟨fun h => ?_, fun h => by rw [h]; rfl⟩
  have heach : lowerEach t = [] := by rw [← map_lower, h, List.map_nil]
  rw [lowerEach, List.flatMap_eq_nil_iff] at heach
  rw [List.eq_nil_iff_forall_not_mem]
  intro c hc
  have hnil := heach c hc
  rw [List.map_eq_nil_iff, lowerAt] at hnil
  split at hnil
  · simp at hnil
  · split at hnil <;> simp at hnil

/-- In a word without a sigma it makes no difference that both are taken for one. -/
theorem infix_map_joinSigmas_iff {w : Text} (hfinal : finalSigma ∉ w) (hinner : innerSigma ∉ w)
    (t : Text) : w <:+: t.map joinSigmas ↔ w <:+: t := by
  have hback {d : Char} (hd : joinSigmas d ∈ w) : joinSigmas d = d := by
    rw [joinSigmas] at hd ⊢
    split at hd
    · exact absurd hd hinner
    · rename_i hne
      rw [if_neg hne]
  have hsame : w.map joinSigmas = w.map id := by
    refine List.map_congr_left fun c hc => if_neg ?_
    rintro rfl
    exact hfinal hc
  rw [List.map_id] at hsame
  constructor
  · rintro ⟨before, after, h⟩
    obtain ⟨front, rest, rfl, hfront, -⟩ := List.append_eq_map_iff.1 h
    obtain ⟨start, word, rfl, -, rfl⟩ := List.map_eq_append_iff.1 hfront
    have hword : word.map joinSigmas = word.map id :=
      List.map_congr_left fun d hd => hback (List.mem_map_of_mem hd)
    rw [hword, List.map_id]
    exact ⟨start, rest, rfl⟩
  · intro h
    rw [← hsame]
    exact h.map joinSigmas

/-- What occurs in the small form of a part of a text occurs in that of the text. -/
theorem occursIn_lower_of_infix {w s t : Text} (hfinal : finalSigma ∉ w) (hinner : innerSigma ∉ w)
    (hst : s <:+: t) (h : occursIn w (lower s) = true) : occursIn w (lower t) = true := by
  rw [occursIn_iff, ← infix_map_joinSigmas_iff hfinal hinner, map_lower] at h ⊢
  obtain ⟨before, after, rfl⟩ := hst
  refine h.trans ⟨lowerEach before, lowerEach after, ?_⟩
  simp [lowerEach]

end Text
end CodeSurvey
