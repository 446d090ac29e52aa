import CodeSurvey.Log.Setup
import Mathlib.Data.List.Induction

/-!
# Every record once

A call leaves the logger of the package as it wishes, whatever was set up before; records leave it
as it is. So each record goes where the latest call says, to every target once, and to no target of
an earlier call that the latest one does not name.

## Main definitions

* `Logger.Serves l w`: the logger is set up as some wishes want it.
* `latestWish? steps`: what the latest of the calls among some steps achieved.
-/

namespace CodeSurvey

/-! ## Loggers on the way up -/

namespace Logger

variable {l root : Logger}

/-- Loggers on which nothing was set leave the level to those above. -/
theorem effectiveLeast_fresh_append (n : Nat) (chain : List Logger) :
    effectiveLeast (List.replicate n fresh ++ chain) = effectiveLeast chain := by
  induction n with
  | zero => rfl
  | succ n ih =>
      rw [List.replicate_succ, List.cons_append, effectiveLeast, if_pos (by rfl), ih]

/-- Loggers on which nothing was set pass records on to those above. -/
theorem reachedHandlers_fresh_append (n : Nat) (chain : List Logger) :
    reachedHandlers (List.replicate n fresh ++ chain) = reachedHandlers chain := by
  induction n with
  | zero => rfl
  | succ n ih =>
      rw [List.replicate_succ, List.cons_append, reachedHandlers, ih]
      rfl

theorem effectiveLeast_cons (h : l.least ≠ .unset) (above : List Logger) :
    effectiveLeast (l :: above) = l.least := if_neg h

theorem reachedHandlers_cons (h : l.propagates = false) (above : List Logger) :
    reachedHandlers (l :: above) = l.handlers := by
  simp [reachedHandlers, h]

/-- Removing handlers that come first leaves the others. -/
theorem foldl_removeHandler {first rest : List LogHandler} (h : l.handlers = first ++ rest) :
    first.foldl removeHandler l = { l with handlers := rest } := by
  induction first generalizing l with
  | nil => rw [List.foldl_nil, ← show l.handlers = rest from h]
  | cons handler first ih =>
      have herase : (l.removeHandler handler).handlers = first ++ rest := by
        rw [removeHandler, h, List.cons_append, List.erase_cons_head]
      rw [List.foldl_cons, ih herase]
      rfl

/-- No handler is left. -/
theorem removeHandlers_eq (l : Logger) : l.removeHandlers = { l with handlers := [] } :=
  foldl_removeHandler (List.append_nil _).symm

/-! ## Wishes -/

/-- The logger is set up as some wishes want it: it has one handler for the stream, and one for the
file if there is one, keeps its records to itself and drops none that a handler wants. -/
structure Serves (l : Logger) (w : LogWish) : Prop where
  handlers_eq : l.handlers =
    ⟨.stream w.console, w.level⟩ :: w.file.toList.map fun path => ⟨.file path, .debug⟩
  keeps : l.propagates = false
  least_le : l.least ≤ w.level
  debug_le : .debug ≤ l.least
  least_of_file : w.file.isSome = true → l.least = .debug

end Logger

/-- What the wishes of a call come to: a file that is not opened gets no records. -/
def LogWish.achieved (w : LogWish) (opened : Bool) : LogWish :=
  if opened then w else { w with file := none }

theorem LogWish.debug_le_level (w : LogWish) : .debug ≤ w.level := by
  rw [level]
  split
  · decide
  · split
    · decide
    · decide

/-- What a call sets up does not depend on what was set up before. -/
theorem setUpLog_eq (w : LogWish) (opened : Bool) (l : LogSetup) :
    setUpLog w opened l = setUpLog w opened .fresh := by
  simp only [setUpLog, Logger.removeHandlers_eq]
  rfl

theorem setUpLog_of_no_file {w : LogWish} (h : w.file = none) (opened : Bool) (l : LogSetup) :
    setUpLog w opened l = ⟨w.level, [⟨.stream w.console, w.level⟩], false⟩ := by
  simp only [setUpLog, Logger.removeHandlers_eq, h]
  rfl

theorem setUpLog_of_file {w : LogWish} {path : Text} (h : w.file = some path) (opened : Bool)
    (l : LogSetup) :
    setUpLog w opened l =
      ⟨.debug, ⟨.stream w.console, w.level⟩ :: if opened then [⟨.file path, .debug⟩] else [],
        false⟩ := by
  simp only [setUpLog, Logger.removeHandlers_eq, h]
  cases opened <;> rfl

/-- A call sets up the logger as it wishes, except for a file that is not opened. -/
theorem serves_setUpLog (w : LogWish) (opened : Bool) (l : LogSetup) :
    (setUpLog w opened l).Serves (w.achieved opened) := by
  cases hfile : w.file with
  | none =>
      have hwish : w.achieved opened = w := by
        cases w
        cases opened <;> simp_all [LogWish.achieved]
      rw [hwish, setUpLog_of_no_file hfile]
      exact ⟨by simp [hfile], rfl, Int.le_refl _, w.debug_le_level, by simp [hfile]⟩
  | some path =>
      rw [setUpLog_of_file hfile]
      cases opened with
      | false => exact ⟨rfl, rfl, w.debug_le_level, Int.le_refl _, fun _ => rfl⟩
      | true =>
          exact ⟨by simp [LogWish.achieved, hfile], rfl, w.debug_le_level, Int.le_refl _,
            fun _ => rfl⟩

/-! ## One record -/

/-- Where a record goes: to the stream if it is heavy enough for it, and to the file if it is no
lighter than a detail. -/
theorem Logger.Serves.targets_eq {l : LogSetup} {w : LogWish} (h : l.Serves w) (root : Logger)
    (r : LogRecord) :
    targets (r.chain root l) r.level =
      (if w.level ≤ r.level then [.stream w.console] else []) ++
        if .debug ≤ r.level then w.file.toList.map .file else [] := by
  have hset : l.least ≠ .unset := by
    intro hunset
    have hdebug := h.debug_le
    rw [hunset] at hdebug
    exact absurd hdebug (by decide)
  have hempty : l.handlers.isEmpty = false := by
    rw [h.handlers_eq]
    rfl
  simp only [targets, LogRecord.chain, effectiveLeast_fresh_append, reachedHandlers_fresh_append,
    effectiveLeast_cons hset, reachedHandlers_cons h.keeps, hempty, Bool.false_eq_true, if_false]
  by_cases hleast : l.least ≤ r.level
  · -- No record that a handler wants is dropped, so the handlers alone decide.
    have hdebug : .debug ≤ r.level := Int.le_trans h.debug_le hleast
    rw [if_pos hleast, if_pos hdebug, h.handlers_eq]
    by_cases hlevel : w.level ≤ r.level
    · cases w.file <;> simp [hlevel, hdebug]
    · cases w.file <;> simp [hlevel, hdebug]
  · have hlevel : ¬w.level ≤ r.level := fun hle => hleast (Int.le_trans h.least_le hle)
    rw [if_neg hleast, if_neg hlevel, List.nil_append]
    cases hfile : w.file with
    | none => simp
    | some path =>
        have hdebug : ¬.debug ≤ r.level := by
          rw [← h.least_of_file (by simp [hfile])]
          exact hleast
        rw [if_neg hdebug]

/-! ## Sequences -/

/-- What the wishes of a step come to, if it is a call. -/
def LogStep.wish? : LogStep → Option LogWish
  | setUp w opened => some (w.achieved opened)
  | emit _ => none

/-- What the latest of the calls among some steps achieved. -/
def latestWish? (steps : List LogStep) : Option LogWish := (steps.filterMap LogStep.wish?).getLast?

/-- The logger of the package after some steps. -/
def loggerAfter (l : LogSetup) (steps : List LogStep) : LogSetup :=
  steps.foldl (fun l step => step.change l) l

/-- The logger serves the latest call: a call sets it up so, and a record leaves it as it is. -/
theorem serves_loggerAfter (l : LogSetup) {steps : List LogStep} {w : LogWish}
    (h : latestWish? steps = some w) : (loggerAfter l steps).Serves w := by
  induction steps using List.reverseRecOn with
  | nil => simp [latestWish?] at h
  | append_singleton steps step ih =>
      rw [loggerAfter, List.foldl_append, List.foldl_cons, List.foldl_nil, ← loggerAfter]
      cases step with
      | setUp w' opened =>
          have hw : w'.achieved opened = w := by
            simpa [latestWish?, LogStep.wish?] using h
          rw [← hw]
          exact serves_setUpLog w' opened _
      | emit r =>
          apply ih
          simpa [latestWish?, LogStep.wish?] using h

/-- Each step writes as the logger stands after the steps before it. -/
theorem getElem?_deliveries (root : Logger) (l : LogSetup) (steps : List LogStep) (i : Nat) :
    (deliveries root l steps)[i]? =
      steps[i]?.map (LogStep.output root (loggerAfter l (steps.take i))) := by
  induction steps generalizing l i with
  | nil => simp [deliveries]
  | cons step steps ih =>
      cases i with
      | zero => rfl
      | succ i =>
          rw [deliveries, List.getElem?_cons_succ, ih]
          rfl

/-- Whatever calls and records follow each other, and however the loggers stood before: a record
after a call is written once to the stream of the latest call if it is heavy enough for the stream,
once to the file of that call, if there is one and it could be opened, unless it is lighter than a
detail, and nowhere else. -/
theorem record_written_once (root : Logger) (l : LogSetup) {steps : List LogStep} {i : Nat}
    {r : LogRecord} {w : LogWish} (hemit : steps[i]? = some (.emit r))
    (hlatest : latestWish? (steps.take i) = some w) :
    ∃ targets : List LogTarget, (deliveries root l steps)[i]? = some (targets.map (·, r)) ∧
      targets.count (.stream w.console) = (if w.level ≤ r.level then 1 else 0) ∧
      (∀ path, w.file = some path →
        targets.count (.file path) = if .debug ≤ r.level then 1 else 0) ∧
      ∀ target, target ≠ .stream w.console → (∀ path, w.file = some path → target ≠ .file path) →
        target ∉ targets := by
  refine ⟨Logger.targets (r.chain root (loggerAfter l (steps.take i))) r.level, ?_, ?_⟩
  · rw [getElem?_deliveries, hemit]
    rfl
  · rw [(serves_loggerAfter l hlatest).targets_eq]
    refine ⟨?_, ?_, ?_⟩
    · cases w.file <;> split <;> split <;> simp
    · intro path hpath
      rw [hpath]
      split <;> split <;> simp
    · intro target hstream hfile hmem
      rcases List.mem_append.1 hmem with hmem | hmem
      · split at hmem
        · exact hstream (List.mem_singleton.1 hmem)
        · simp at hmem
      · split at hmem
        · obtain ⟨path, hpath, rfl⟩ := List.mem_map.1 hmem
          exact hfile path (Option.mem_toList.1 hpath) rfl
        · simp at hmem

/-- A quiet call with a file and a record, then a call without wishes and another record. -/
def rewired : List LogStep := [
  .setUp { quiet := true, file := some "run.log".toList } true, .emit (.info "engine" "Stage 1/7"),
  .setUp {} true, .emit (.info "engine" "Stage 2/7")]

/-- The first record goes to the file alone, the second to the stream alone. -/
theorem records_of_rewired :
    (rewired[1]? = some (.emit (.info "engine" "Stage 1/7")) ∧
      latestWish? (rewired.take 1) = some { quiet := true, file := some "run.log".toList } ∧
      rewired[3]? = some (.emit (.info "engine" "Stage 2/7")) ∧
      latestWish? (rewired.take 3) = some {}) ∧
    (∃ targets : List LogTarget,
      (deliveries .root .fresh rewired)[1]? =
        some (targets.map (·, LogRecord.info "engine" "Stage 1/7")) ∧
      targets.count (.stream "stderr") = 0 ∧ targets.count (.file "run.log") = 1) ∧
    ∃ targets : List LogTarget,
      (deliveries .root .fresh rewired)[3]? =
        some (targets.map (·, LogRecord.info "engine" "Stage 2/7")) ∧
      targets.count (.stream "stderr") = 1 ∧ .file "run.log" ∉ targets := by
  have hfirst : rewired[1]? = some (.emit (.info "engine" "Stage 1/7")) := rfl
  have hquiet : latestWish? (rewired.take 1) =
      some { quiet := true, file := some "run.log".toList } := rfl
  have hsecond : rewired[3]? = some (.emit (.info "engine" "Stage 2/7")) := rfl
  have hplain : latestWish? (rewired.take 3) = some {} := rfl
  refine ⟨⟨hfirst, hquiet, hsecond, hplain⟩, ?_, ?_⟩
  · obtain ⟨targets, hout, hstream, hfile, -⟩ := record_written_once .root .fresh hfirst hquiet
    exact ⟨targets, hout, hstream, hfile _ rfl⟩
  · obtain ⟨targets, hout, hstream, -, hnone⟩ := record_written_once .root .fresh hsecond hplain
    exact ⟨targets, hout, hstream, hnone _ (by simp) (by simp)⟩

end CodeSurvey
