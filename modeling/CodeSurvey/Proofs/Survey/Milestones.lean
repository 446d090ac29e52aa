import CodeSurvey.Survey.Request

/-!
# Milestones of a survey

A survey announces its stages one after the other and its completion last. However it ends, what it
has announced is a beginning of the same eight milestones, and all of them are announced exactly if
there is a survey; a request that fails before the first stage announces nothing.

## Main definitions

* `Survey.milestones`: what a complete survey announces.
* `Announces x ps`: work that announces `ps` if it succeeds, and less if it fails.
-/

namespace CodeSurvey

/-- What a complete survey announces. -/
def Survey.milestones : List Progress := [
  ⟨"walk", 0, 7⟩, ⟨"technologies", 1, 7⟩, ⟨"structure", 2, 7⟩, ⟨"examples", 3, 7⟩,
  ⟨"patterns", 4, 7⟩, ⟨"quality", 5, 7⟩, ⟨"insights", 6, 7⟩, ⟨"complete", 7, 7⟩]

/-! ## Progress in a trace -/

@[simp] theorem progressOf_append (es fs : List SurveyEvent) :
    progressOf (es ++ fs) = progressOf es ++ progressOf fs := List.filterMap_append

/-- Records announce nothing. -/
@[simp] theorem progressOf_map_logged (rs : List LogRecord) :
    progressOf (rs.map .logged) = [] := by
  simp [progressOf, List.filterMap_map]

/-! ## Work that announces -/

section Announces

variable {ε ε' α β : Type} {x : Traced SurveyEvent ε α} {f : α → Traced SurveyEvent ε β}
  {ps qs : List Progress}

/-- Work that announces all of some milestones if it succeeds, and some of the first but not all if
it fails. -/
structure Announces (x : Traced SurveyEvent ε α) (ps : List Progress) : Prop where
  of_ok : ∀ a, x.result = .ok a → progressOf x.trace = ps
  of_error : ∀ e, x.result = .error e → progressOf x.trace <+: ps ∧ progressOf x.trace ≠ ps

namespace Announces

theorem pure (a : α) : Announces (Pure.pure a : Traced SurveyEvent ε α) [] :=
  ⟨fun _ _ => rfl, nofun⟩

theorem fail (e : ε) (hps : ps ≠ []) : Announces (Traced.fail e : Traced SurveyEvent ε α) ps :=
  ⟨nofun, fun _ _ => ⟨List.prefix_append [] ps, hps.symm⟩⟩

/-- What comes first, and succeeds, is announced first. -/
theorem bind_of_ok {a : α} (hx : x.result = .ok a) (hqs : progressOf x.trace = qs)
    (h : Announces (f a) ps) : Announces (x >>= f) (qs ++ ps) := by
  have hresult : (x >>= f).result = (f a).result := by rw [Traced.result_bind, hx]; rfl
  have htrace : progressOf (x >>= f).trace = qs ++ progressOf (f a).trace := by
    rw [Traced.trace_bind_of_ok hx, progressOf_append, hqs]
  constructor
  · intro b hb
    rw [htrace, h.of_ok b (hresult ▸ hb)]
  · intro e he
    obtain ⟨hbeginning, hne⟩ := h.of_error e (hresult ▸ he)
    rw [htrace]
    exact ⟨(List.prefix_append_right_inj qs).2 hbeginning,
      fun heq => hne (List.append_cancel_left heq)⟩

/-- Work that announces nothing may fail as long as milestones are to come. -/
theorem bind_of_silent (hx : progressOf x.trace = []) (hps : ps ≠ [])
    (h : ∀ a, Announces (f a) ps) : Announces (x >>= f) ps := by
  cases hresult : x.result with
  | ok a => exact bind_of_ok hresult hx (h a)
  | error e =>
      constructor
      · intro b hb
        rw [Traced.result_bind, hresult] at hb
        exact nomatch hb
      · intro _ _
        rw [Traced.trace_bind_of_error hresult, hx]
        exact ⟨List.prefix_append [] ps, hps.symm⟩

/-- Another kind of failure makes no difference. -/
theorem convert (h : Announces x ps) (g : ε → ε') : Announces (x.convert id g) ps := by
  have htrace : (x.convert id g).trace = x.trace := List.map_id _
  have hresult : (x.convert id g).result = x.result.mapError g := rfl
  constructor
  · intro a ha
    cases hx : x.result with
    | ok b => exact htrace ▸ h.of_ok b hx
    | error e =>
        rw [hresult, hx] at ha
        cases ha
  · intro e he
    cases hx : x.result with
    | ok b =>
        rw [hresult, hx] at he
        cases he
    | error e => exact htrace ▸ h.of_error e hx

/-- A beginning of the milestones is announced, and all of them exactly if the work succeeds. -/
theorem prefix_and_eq_iff (h : Announces x ps) :
    progressOf x.trace <+: ps ∧ (progressOf x.trace = ps ↔ ∃ a, x.result = .ok a) := by
  cases hx : x.result with
  | ok a =>
      rw [h.of_ok a hx]
      exact ⟨List.prefix_refl _, by simp⟩
  | error e =>
      obtain ⟨hbeginning, hne⟩ := h.of_error e hx
      exact ⟨hbeginning, by simp [hne]⟩

end Announces
end Announces

/-! ## The steps of a survey -/

namespace Survey

section Steps

variable {α : Type} {f : Unit → Surveying α} {ps : List Progress}

theorem announces_inform (message : Text) (h : Announces (f ()) ps) :
    Announces (inform message >>= f) ps :=
  have hnone : progressOf (inform message).trace = [] := rfl
  .bind_of_ok rfl hnone h

theorem announces_details (rs : List LogRecord) (h : Announces (f ()) ps) :
    Announces (details rs >>= f) ps :=
  have hnone : progressOf (details rs).trace = [] := progressOf_map_logged rs
  .bind_of_ok rfl hnone h

theorem announces_reached (p : Progress) (h : Announces (f ()) ps) :
    Announces (Traced.note (.reached p) >>= f) (p :: ps) :=
  have hone : progressOf (Traced.note (.reached p) : Surveying Unit).trace = [p] := rfl
  .bind_of_ok rfl hone h

theorem announces_announce (stage : Stage) (h : Announces (f ()) ps) :
    Announces (announce stage >>= f) (.begins stage :: ps) :=
  have hone : progressOf (announce stage).trace = [.begins stage] := rfl
  .bind_of_ok rfl hone h

/-- Manifests are read without an announcement. -/
theorem announces_withManifests {β : Type} {x : Logged ManifestFailure β} {f : β → Surveying α}
    (hps : ps ≠ []) (h : ∀ b, Announces (f b) ps) : Announces (withManifests x >>= f) ps :=
  .bind_of_silent (progressOf_map_logged x.trace) hps h

/-- So are the folders walked. -/
theorem announces_walk [Host] {fs : FileSystem} {root : Location} {s : Settings}
    {f : Snapshot → Surveying α} (hps : ps ≠ []) (h : ∀ snap, Announces (f snap) ps) :
    Announces (walk fs root s >>= f) ps := by
  refine .bind_of_silent ?_ hps h
  simp only [walk]
  split <;> rfl

end Steps

/-- The stages announce the milestones. -/
theorem announces_ofRoot [Host] (fs : FileSystem) (root : Location) (s : Settings) :
    Announces (ofRoot fs root s) milestones := by
  rw [ofRoot]
  apply announces_inform
  apply announces_announce .walk
  refine announces_walk (List.cons_ne_nil _ _) fun snap => ?_
  apply announces_details
  apply announces_announce .technologies
  refine announces_withManifests (List.cons_ne_nil _ _) fun technologies => ?_
  apply announces_announce .layout
  refine announces_withManifests (List.cons_ne_nil _ _) fun layout => ?_
  apply announces_announce .examples
  apply announces_details
  apply announces_announce .patterns
  apply announces_details
  apply announces_announce .quality
  apply announces_details
  apply announces_announce .insights
  apply announces_reached .complete
  apply announces_inform
  exact .pure _

/-- A request that fails before the first stage comes to nothing else. -/
theorem request_of_error [Host] {fs : FileSystem} {here : Location} {path : Text} {s : Settings}
    {useFile : Bool} {o : NamedOverrides} {e : RequestFailure}
    (h : prepare fs here path s useFile o = .error e) :
    request fs here path s useFile o = Traced.fail e := by
  rw [request, h, Traced.ofExcept_error_bind]

/-- Any other request is one for the stages. -/
theorem request_of_ok [Host] {fs : FileSystem} {here root : Location} {path : Text}
    {s settings : Settings} {useFile : Bool} {o : NamedOverrides}
    (h : prepare fs here path s useFile o = .ok (root, settings)) :
    request fs here path s useFile o = (ofRoot fs root settings).convert id .survey := by
  rw [request, h, Traced.ofExcept_ok_bind]

/-- Whatever is asked for, what is announced is a beginning of the milestones. It is all of them
exactly if there is a survey, and nothing if the folder is not found, the settings are not loaded or
a new value has no field. -/
theorem progress_is_beginning [Host] (fs : FileSystem) (here : Location) (path : Text)
    (s : Settings) (useFile : Bool) (o : NamedOverrides) :
    let made := request fs here path s useFile o
    progressOf made.trace <+: milestones ∧
      (progressOf made.trace = milestones ↔ ∃ survey, made.result = .ok survey) ∧
      ∀ e, prepare fs here path s useFile o = .error e →
        made.result = .error e ∧ progressOf made.trace = [] := by
  intro made
  have hannounces : Announces made milestones := by
    cases hprepare : prepare fs here path s useFile o with
    | error e =>
        rw [show made = _ from request_of_error hprepare]
        exact .fail e (List.cons_ne_nil _ _)
    | ok found =>
        rw [show made = _ from request_of_ok hprepare]
        exact (announces_ofRoot fs found.1 found.2).convert RequestFailure.survey
  obtain ⟨hbeginning, hall⟩ := hannounces.prefix_and_eq_iff
  refine ⟨hbeginning, hall, fun e he => ?_⟩
  rw [show made = _ from request_of_error he]
  exact ⟨rfl, rfl⟩

end Survey
end CodeSurvey
