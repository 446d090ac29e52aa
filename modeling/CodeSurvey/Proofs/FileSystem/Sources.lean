import CodeSurvey.FileSystem.Read
import CodeSurvey.Proofs.FileSystem.WellFormed

/-!
# Sources and why they are refused

A source is the text of a file of limited size whose bytes are well-formed and have no zero among
them. Each reason to refuse a source applies where those before it do not, so exactly one of them is
given.

## Main definitions

* `FileSystem.IsSource`: what the path of a source leads to.
* `FileSystem.Refuses`: the reasons, each with what it says of the file.
-/

namespace CodeSurvey
namespace FileSystem

variable {fs : FileSystem} {root : Location} {limit : Option Int} {path : Text}
  {content : ByteArray} {t : Text} {reason : ReadFailure}

/-- Whether a size is within a limit, if there is one. -/
def Within (limit : Option Int) (size : Nat) : Prop := ∀ n, limit = some n → (size : Int) ≤ n

/-- The path leads to a file of limited size with well-formed bytes, none of them zero. -/
structure IsSource (fs : FileSystem) (root : Location) (limit : Option Int) (path : Text)
    (content : ByteArray) : Prop where
  leads : ∃ l, fs.stat root path = .ok (l, .file content)
  within : Within limit content.size
  no_zero : 0 ∉ content.data
  wellFormed : Utf8.WellFormed content.data.toList

/-- The reasons for which there is no source at a path. What the system refuses comes first, with
the size and the kind of what is found; then bytes that are zero, then bytes that are not
well-formed. -/
inductive Refuses (fs : FileSystem) (root : Location) (limit : Option Int) (path : Text) :
    ReadFailure → Prop
  | system {error : OsError} (stat_eq : fs.stat root path = .error error) :
      Refuses fs root limit path (.refused error (pathUnder root path))
  | tooLarge {l : Location} {e : Entry} (stat_eq : fs.stat root path = .ok (l, e))
      (large : ¬Within limit (entrySize e)) : Refuses fs root limit path .tooLarge
  | noFile {l : Location} {e : Entry} (stat_eq : fs.stat root path = .ok (l, e))
      (within : Within limit (entrySize e)) (no_file : ∀ content, e ≠ .file content) :
      Refuses fs root limit path (.refused .isFolder (pathUnder root path))
  | binary {l : Location} {content : ByteArray}
      (stat_eq : fs.stat root path = .ok (l, .file content))
      (within : Within limit content.size) (zero : 0 ∈ content.data) :
      Refuses fs root limit path .binary
  | notUtf8 {l : Location} {content : ByteArray}
      (stat_eq : fs.stat root path = .ok (l, .file content)) (within : Within limit content.size)
      (no_zero : 0 ∉ content.data) (ill_formed : ¬Utf8.WellFormed content.data.toList) :
      Refuses fs root limit path .notUtf8

/-! ## Bytes -/

theorem sourceOf_of_zero (h : 0 ∈ content.data) : sourceOf content = .error .binary := by
  rw [sourceOf, if_pos (by simpa using h)]

theorem sourceOf_encode (h : 0 ∉ (Utf8.encode t).data) : sourceOf (Utf8.encode t) = .ok t := by
  rw [sourceOf, if_neg (by simpa using h), Utf8.decode?_encode]

theorem sourceOf_of_ill_formed (hzero : 0 ∉ content.data)
    (h : ¬Utf8.WellFormed content.data.toList) : sourceOf content = .error .notUtf8 := by
  have hdecode : Utf8.decode? content = none := by
    rw [Option.eq_none_iff_forall_ne_some]
    intro t ht
    exact h (Utf8.exists_encode_iff.1 ⟨t, Utf8.encode_of_decode? ht⟩)
  rw [sourceOf, if_neg (by simpa using hzero), hdecode]

/-! ## Files -/

theorem any_lt_eq_false_iff {size : Nat} :
    limit.any (fun n => n < (size : Int)) = false ↔ Within limit size := by
  cases limit with
  | none => simp [Within]
  | some n => simp [Within]

/-- A file within the limit is read as its bytes are. -/
theorem readSource_of_file {l : Location} (h : fs.stat root path = .ok (l, .file content))
    (hwithin : Within limit content.size) : fs.readSource root limit path = sourceOf content := by
  have hlimit : limit.any (fun n => n < (entrySize (.file content) : Int)) = false :=
    any_lt_eq_false_iff.2 hwithin
  simp only [readSource, h, hlimit, Bool.false_eq_true, if_false]

theorem readSource_of_isSource (h : fs.IsSource root limit path (Utf8.encode t)) :
    fs.readSource root limit path = .ok t := by
  obtain ⟨⟨l, hstat⟩, hwithin, hzero, -⟩ := h
  rw [readSource_of_file hstat hwithin, sourceOf_encode hzero]

theorem readSource_of_refuses (h : fs.Refuses root limit path reason) :
    fs.readSource root limit path = .error reason := by
  cases h with
  | system hstat => rw [readSource, hstat]
  | tooLarge hstat hlarge =>
      rw [← any_lt_eq_false_iff, Bool.not_eq_false] at hlarge
      simp only [readSource, hstat, hlarge, if_true]
  | noFile hstat hwithin hfile =>
      have hlimit := any_lt_eq_false_iff.2 hwithin
      simp only [readSource, hstat, hlimit, Bool.false_eq_true, if_false]
  | binary hstat hwithin hzero => rw [readSource_of_file hstat hwithin, sourceOf_of_zero hzero]
  | notUtf8 hstat hwithin hzero hill =>
      rw [readSource_of_file hstat hwithin, sourceOf_of_ill_formed hzero hill]

/-- A path leads to a source, or there is a reason why it does not. -/
theorem isSource_or_refuses (fs : FileSystem) (root : Location) (limit : Option Int) (path : Text) :
    (∃ t, fs.IsSource root limit path (Utf8.encode t)) ∨
      ∃ reason, fs.Refuses root limit path reason := by
  cases hstat : fs.stat root path with
  | error error => exact .inr ⟨_, .system hstat⟩
  | ok found =>
      obtain ⟨l, e⟩ := found
      by_cases hwithin : Within limit (entrySize e)
      · cases e with
        | link target => exact .inr ⟨_, .noFile hstat hwithin nofun⟩
        | folder entries => exact .inr ⟨_, .noFile hstat hwithin nofun⟩
        | file content =>
            by_cases hzero : 0 ∈ content.data
            · exact .inr ⟨_, .binary hstat hwithin hzero⟩
            by_cases hwell : Utf8.WellFormed content.data.toList
            · obtain ⟨t, rfl⟩ := Utf8.exists_encode_iff.2 hwell
              exact .inl ⟨t, ⟨l, hstat⟩, hwithin, hzero, hwell⟩
            · exact .inr ⟨_, .notUtf8 hstat hwithin hzero hwell⟩
      · exact .inr ⟨_, .tooLarge hstat hwithin⟩

theorem readSource_eq_ok_iff :
    fs.readSource root limit path = .ok t ↔ fs.IsSource root limit path (Utf8.encode t) := by
  constructor
  · intro hread
    rcases isSource_or_refuses fs root limit path with ⟨t', hsource⟩ | ⟨reason, hrefuses⟩
    · rw [readSource_of_isSource hsource] at hread
      cases hread
      exact hsource
    · rw [readSource_of_refuses hrefuses] at hread
      cases hread
  · exact readSource_of_isSource

theorem readSource_eq_error_iff :
    fs.readSource root limit path = .error reason ↔ fs.Refuses root limit path reason := by
  constructor
  · intro hread
    rcases isSource_or_refuses fs root limit path with ⟨t', hsource⟩ | ⟨reason', hrefuses⟩
    · rw [readSource_of_isSource hsource] at hread
      cases hread
    · rw [readSource_of_refuses hrefuses] at hread
      cases hread
      exact hrefuses
  · exact readSource_of_refuses

end FileSystem
end CodeSurvey
