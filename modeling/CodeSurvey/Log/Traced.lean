/-!
# Results with a trace

A step of work ends in a value or a failure, and leaves a trace of what happened on the way. After a
failure nothing more happens, but the trace so far is kept.

## Main definitions

* `Traced ρ ε α`: a value or a failure, with the things noted on the way to it.
-/

namespace CodeSurvey

/-- A result with the things noted on the way to it, in order. -/
structure Traced (ρ ε α : Type) where
  result : Except ε α
  trace : List ρ

namespace Traced

variable {ρ ε α β : Type}

/-- A value without a trace. -/
protected def pure (a : α) : Traced ρ ε α := ⟨.ok a, []⟩

/-- One thing noted. -/
def note (r : ρ) : Traced ρ ε Unit := ⟨.ok (), [r]⟩

/-- Some things noted. -/
def noteAll (rs : List ρ) : Traced ρ ε Unit := ⟨.ok (), rs⟩

/-- A failure without a trace. -/
def fail (e : ε) : Traced ρ ε α := ⟨.error e, []⟩

/-- A result without a trace. -/
def ofExcept (x : Except ε α) : Traced ρ ε α := ⟨x, []⟩

/-- One step after another; the trace of the first comes first, and after a failure nothing
follows. -/
protected def bind (x : Traced ρ ε α) (f : α → Traced ρ ε β) : Traced ρ ε β :=
  match x.result with
  | .error e => ⟨.error e, x.trace⟩
  | .ok a => ⟨(f a).result, x.trace ++ (f a).trace⟩

instance : Monad (Traced ρ ε) where
  pure := Traced.pure
  bind := Traced.bind

/-- The same work with another kind of failure and of trace. -/
def convert {ρ' ε' : Type} (onNote : ρ → ρ') (onFailure : ε → ε') (x : Traced ρ ε α) :
    Traced ρ' ε' α :=
  ⟨x.result.mapError onFailure, x.trace.map onNote⟩

@[simp] theorem result_pure (a : α) : (pure a : Traced ρ ε α).result = .ok a := rfl
@[simp] theorem trace_pure (a : α) : (pure a : Traced ρ ε α).trace = [] := rfl
@[simp] theorem result_note (r : ρ) : (note r : Traced ρ ε Unit).result = .ok () := rfl
@[simp] theorem trace_note (r : ρ) : (note r : Traced ρ ε Unit).trace = [r] := rfl
@[simp] theorem result_noteAll (rs : List ρ) : (noteAll rs : Traced ρ ε Unit).result = .ok () := rfl
@[simp] theorem trace_noteAll (rs : List ρ) : (noteAll rs : Traced ρ ε Unit).trace = rs := rfl

@[simp] theorem result_bind (x : Traced ρ ε α) (f : α → Traced ρ ε β) :
    (x >>= f).result = x.result.bind fun a => (f a).result := by
  show (Traced.bind x f).result = _
  unfold Traced.bind
  cases x.result <;> rfl

theorem trace_bind_of_ok {x : Traced ρ ε α} {a : α} (h : x.result = .ok a)
    (f : α → Traced ρ ε β) : (x >>= f).trace = x.trace ++ (f a).trace := by
  show (Traced.bind x f).trace = _
  unfold Traced.bind
  rw [h]

theorem trace_bind_of_error {x : Traced ρ ε α} {e : ε} (h : x.result = .error e)
    (f : α → Traced ρ ε β) : (x >>= f).trace = x.trace := by
  show (Traced.bind x f).trace = _
  unfold Traced.bind
  rw [h]

theorem note_bind (r : ρ) (f : Unit → Traced ρ ε β) :
    (note r >>= f) = ⟨(f ()).result, r :: (f ()).trace⟩ := rfl

theorem ofExcept_error_bind (e : ε) (f : α → Traced ρ ε β) :
    (ofExcept (.error e) >>= f) = fail e := rfl

theorem ofExcept_ok_bind (a : α) (f : α → Traced ρ ε β) : (ofExcept (.ok a) >>= f) = f a := by
  show Traced.bind (ofExcept (.ok a)) f = f a
  simp [Traced.bind, ofExcept]

end Traced
end CodeSurvey
