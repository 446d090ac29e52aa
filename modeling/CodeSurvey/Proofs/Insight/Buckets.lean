import CodeSurvey.Insight.Basic

/-!
# What the buckets take

One pass over the rules fills all buckets at once, and each of them takes no more than the limit. A
step changes only the bucket of its rule, so that every bucket ends with the first messages that its
own rules have for it, whatever the rules of the other buckets are and however the rules of
different buckets are mixed.

## Main definitions

* `Insights.messagesFor rules x b`: all that some rules have to say in a bucket.
-/

namespace CodeSurvey
namespace Insights

variable {γ : Type} {limit : Nat} {x : γ} {i j : Insights} {b : Bucket} {r : InsightRule γ}
  {rules rules' : List (InsightRule γ)}

/-- The messages of the rules of a bucket that apply, in order. -/
def messagesFor (rules : List (InsightRule γ)) (x : γ) (b : Bucket) : List Text :=
  (rules.filter fun r => r.bucket == b && r.applies x).map (·.message)

theorem messagesFor_cons (r : InsightRule γ) (rules : List (InsightRule γ)) (x : γ) (b : Bucket) :
    messagesFor (r :: rules) x b = messagesFor [r] x b ++ messagesFor rules x b := by
  rw [messagesFor, messagesFor, messagesFor, ← List.singleton_append, List.filter_append,
    List.map_append]

/-- What is said in a bucket is said by the rules of that bucket. -/
theorem messagesFor_filter (rules : List (InsightRule γ)) (x : γ) (b : Bucket) :
    messagesFor (rules.filter (·.bucket == b)) x b = messagesFor rules x b := by
  rw [messagesFor, messagesFor, List.filter_filter]
  congr 1
  refine List.filter_congr fun r _ => ?_
  cases r.bucket == b <;> simp

/-- Remarks are told apart by their buckets. -/
theorem ext_get (h : ∀ b, i.get b = j.get b) : i = j := by
  cases i
  cases j
  simp only [mk.injEq]
  exact ⟨h .strengths, h .improvements, h .opportunities, h .risks⟩

/-! ## One rule -/

theorem get_step_of_ne (h : b ≠ r.bucket) : (step limit x i r).get b = i.get b := by
  unfold step
  split
  · rw [get_add, if_neg h, List.append_nil]
  · rfl

/-- A bucket within the limit takes what a rule has for it as far as the limit allows. -/
theorem get_step (h : (i.get b).length ≤ limit) :
    (step limit x i r).get b = (i.get b ++ messagesFor [r] x b).take limit := by
  by_cases hb : b = r.bucket
  · subst hb
    unfold step
    by_cases happlies : r.applies x = true
    · have hmessages : messagesFor [r] x r.bucket = [r.message] := by
        simp [messagesFor, happlies]
      rw [hmessages]
      by_cases hlt : (i.get r.bucket).length < limit
      · rw [if_pos (by simp [hlt, happlies]), get_add, if_pos rfl, List.take_of_length_le]
        simp only [List.length_append, List.length_singleton]
        omega
      · have hfull : (i.get r.bucket).length = limit := by omega
        rw [if_neg (by simp [hlt]), ← hfull, List.take_left]
    · have hmessages : messagesFor [r] x r.bucket = [] := by simp [messagesFor, happlies]
      rw [hmessages, if_neg (by simp [happlies]), List.append_nil, List.take_of_length_le h]
  · have hmessages : messagesFor [r] x b = [] := by simp [messagesFor, Ne.symm hb]
    rw [get_step_of_ne hb, hmessages, List.append_nil, List.take_of_length_le h]

/-! ## All rules -/

/-- What was left out for a limit would not have come in within it. -/
theorem take_take_append {β : Type} (l m : List β) (n : Nat) :
    (l.take n ++ m).take n = (l ++ m).take n := by
  rw [List.take_append, List.take_append, List.take_take, Nat.min_self, List.length_take]
  congr 2
  omega

/-- The induction is on the rules; its invariant is that no bucket is beyond the limit. -/
theorem get_foldl_step (rules : List (InsightRule γ)) (h : (i.get b).length ≤ limit) :
    (rules.foldl (step limit x) i).get b =
      (i.get b ++ messagesFor rules x b).take limit := by
  induction rules generalizing i with
  | nil => simp [messagesFor, List.take_of_length_le h]
  | cons r rules ih =>
      have hstep := get_step (x := x) (r := r) h
      have hle : ((step limit x i r).get b).length ≤ limit := by
        rw [hstep]
        exact List.length_take_le _ _
      rw [List.foldl_cons, ih hle, hstep, messagesFor_cons r rules, ← List.append_assoc,
        take_take_append]

/-- Every bucket holds the first of its messages. -/
theorem get_ofRules (rules : List (InsightRule γ)) (limit : Nat) (x : γ) (b : Bucket) :
    (ofRules rules limit x).get b = (messagesFor rules x b).take limit := by
  have hempty : ({} : Insights).get b = [] := by cases b <;> rfl
  rw [ofRules, get_foldl_step rules (by simp [hempty]), hempty, List.nil_append]

/-- A bucket is the same wherever its own rules are the same in the same order. -/
theorem get_ofRules_congr (h : rules'.filter (·.bucket == b) = rules.filter (·.bucket == b)) :
    (ofRules rules' limit x).get b = (ofRules rules limit x).get b := by
  rw [get_ofRules, get_ofRules, ← messagesFor_filter rules', h, messagesFor_filter]

/-- Each bucket holds exactly the first messages, as many as the limit allows and in the order of
the rules, of those of its rules that apply. The other buckets are the same without the rules of a
bucket, be it full or not, and so are all buckets if the rules are mixed in another way that keeps
the order in each bucket. -/
theorem buckets_filled_apart (rules : List (InsightRule γ)) (limit : Nat) (x : γ) :
    (∀ b, (ofRules rules limit x).get b =
      ((rules.filter fun r => r.bucket == b && r.applies x).map (·.message)).take limit) ∧
    (∀ b b', b' ≠ b →
      (ofRules rules limit x).get b' = (ofRules (rules.filter (·.bucket != b)) limit x).get b') ∧
    ∀ rules', (∀ b, rules'.filter (·.bucket == b) = rules.filter (·.bucket == b)) →
      ofRules rules' limit x = ofRules rules limit x := by
  refine ⟨get_ofRules rules limit x, fun b b' hne => ?_, fun rules' h => ?_⟩
  · refine (get_ofRules_congr ?_).symm
    rw [List.filter_filter]
    refine List.filter_congr fun r _ => ?_
    by_cases hr : r.bucket = b'
    · simp [hr, hne]
    · simp [hr]
  · exact ext_get fun b => get_ofRules_congr (h b)

/-- Rules on numbers for two buckets, of which one gets more than a single remark. -/
def mixed : List (InsightRule Nat) := [
  ⟨.risks, "odd", fun n => n % 2 == 1⟩,
  ⟨.strengths, "zero", fun n => n == 0⟩,
  ⟨.risks, "small", fun n => n < 10⟩,
  ⟨.strengths, "positive", fun n => 0 < n⟩]

/-- The same rules, bucket by bucket. -/
def sorted : List (InsightRule Nat) := [
  ⟨.strengths, "zero", fun n => n == 0⟩,
  ⟨.strengths, "positive", fun n => 0 < n⟩,
  ⟨.risks, "odd", fun n => n % 2 == 1⟩,
  ⟨.risks, "small", fun n => n < 10⟩]

/-- The number seven is odd and small, and only the first is said; it is positive all the same. -/
theorem buckets_of_mixed :
    (∀ b, sorted.filter (·.bucket == b) = mixed.filter (·.bucket == b)) ∧
      (ofRules mixed 1 7).get .risks = ["odd".toList] ∧
      (ofRules mixed 1 7).get .strengths =
        (ofRules (mixed.filter (·.bucket != .risks)) 1 7).get .strengths ∧
      ofRules sorted 1 7 = ofRules mixed 1 7 := by
  obtain ⟨hfirst, hothers, hmixed⟩ := buckets_filled_apart mixed 1 7
  have hsame : ∀ b, sorted.filter (·.bucket == b) = mixed.filter (·.bucket == b) := by
    intro b
    cases b <;> rfl
  exact ⟨hsame, (hfirst .risks).trans (by decide), hothers .risks .strengths (by decide),
    hmixed sorted hsame⟩

end Insights
end CodeSurvey
