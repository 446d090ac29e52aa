import CodeSurvey.Text.Basic

/-!
# Tables

A table gives values to names and keeps the names in the order in which they first came. A name
that is put again keeps its place and takes the new value.

## Main definitions

* `Table.put`, `Table.get?`, `Table.names`, `Table.ofList`.
-/

namespace CodeSurvey

/-- Values by name, in the order of the names' first appearance. -/
abbrev Table (β : Type) := List (Text × β)

namespace Table

variable {β : Type}

/-- The value of a name. -/
def get? (t : Table β) (name : Text) : Option β := t.lookup name

/-- The names of a table, in order. -/
def names (t : Table β) : List Text := t.map (·.1)

/-- Whether the table has the name. -/
def has (t : Table β) (name : Text) : Bool := (get? t name).isSome

/-- Gives a value to a name, in the name's old place if it has one. -/
def put (t : Table β) (name : Text) (value : β) : Table β :=
  match t with
  | [] => [(name, value)]
  | (n, v) :: rest => if n == name then (name, value) :: rest else (n, v) :: put rest name value

/-- Puts pairs one after the other. -/
def putAll (t : Table β) (pairs : List (Text × β)) : Table β :=
  pairs.foldl (fun t (name, value) => t.put name value) t

/-- The table of a list of pairs, in which the last value of a name counts. -/
def ofList (pairs : List (Text × β)) : Table β := putAll [] pairs

@[simp] theorem get?_nil (name : Text) : get? ([] : Table β) name = none := rfl

theorem get?_cons (n : Text) (v : β) (t : Table β) (name : Text) :
    get? ((n, v) :: t) name = if name == n then some v else get? t name := by
  rw [get?, List.lookup_cons]
  split <;> simp_all [get?]

theorem has_iff_mem_names {t : Table β} {name : Text} : has t name = true ↔ name ∈ names t := by
  induction t with
  | nil => simp [has, names]
  | cons p t ih =>
    obtain ⟨n, v⟩ := p
    rw [has, get?_cons, names, List.map_cons, List.mem_cons]
    split
    · simp_all
    · rw [← has, ih, names]
      simp_all

theorem get?_put (t : Table β) (name other : Text) (value : β) :
    get? (put t name value) other = if other == name then some value else get? t other := by
  induction t with
  | nil => simp [put, get?_cons]
  | cons p t ih =>
    obtain ⟨n, v⟩ := p
    unfold put
    by_cases h : n == name
    · have : n = name := by simpa using h
      subst this
      simp only [h, if_true, get?_cons]
      split <;> simp_all
    · simp only [h, Bool.false_eq_true, if_false, get?_cons, ih]
      by_cases h1 : other == n <;> by_cases h2 : other == name <;> simp_all

theorem mem_names_put {t : Table β} {name other : Text} {value : β} :
    other ∈ names (put t name value) ↔ other = name ∨ other ∈ names t := by
  induction t with
  | nil => simp [put, names]
  | cons p t ih =>
    obtain ⟨n, v⟩ := p
    unfold put
    by_cases h : n == name
    · simp_all [names]
    · simp only [names] at ih ⊢
      simp only [h, Bool.false_eq_true, if_false, List.map_cons, List.mem_cons, ih]
      grind

theorem nodup_names_put {t : Table β} (h : (names t).Nodup) (name : Text) (value : β) :
    (names (put t name value)).Nodup := by
  induction t with
  | nil => simp [put, names]
  | cons p t ih =>
    obtain ⟨n, v⟩ := p
    have hc : n ∉ names t ∧ (names t).Nodup := by simpa [names] using h
    unfold put
    by_cases hn : n == name
    · have : n = name := by simpa using hn
      subst this
      simpa [names] using hc
    · have hne : n ≠ name := by simpa using hn
      have : n ∉ names (put t name value) := by
        rw [mem_names_put]
        grind
      simp only [hn, Bool.false_eq_true, if_false]
      simpa [names] using And.intro this (ih hc.2)

/-- A new name is put after the others. -/
theorem names_put (t : Table β) (name : Text) (value : β) :
    names (put t name value) = if name ∈ names t then names t else names t ++ [name] := by
  induction t with
  | nil => rfl
  | cons p t ih =>
    obtain ⟨n, v⟩ := p
    unfold put
    by_cases hn : n = name
    · simp [hn, names]
    · simp only [names] at ih
      by_cases hmem : name ∈ t.map (·.1)
      · simp [hn, names, ih, hmem]
      · simp [hn, names, ih, hmem, Ne.symm hn]

/-- A table made of pairs has no name twice. -/
theorem nodup_names_ofList (pairs : List (Text × β)) : (names (ofList pairs)).Nodup := by
  suffices h : ∀ t : Table β, (names t).Nodup → (names (putAll t pairs)).Nodup from
    h [] (by simp [names])
  induction pairs with
  | nil => exact fun _ h => h
  | cons p pairs ih => exact fun t h => ih _ (nodup_names_put h _ _)

theorem put_of_not_mem {t : Table β} {name : Text} (h : name ∉ names t) (value : β) :
    put t name value = t ++ [(name, value)] := by
  induction t with
  | nil => rfl
  | cons p t ih =>
      obtain ⟨n, v⟩ := p
      simp only [names, List.map_cons, List.mem_cons, not_or] at h
      have hne : (n == name) = false := beq_eq_false_iff_ne.2 (Ne.symm h.1)
      rw [put, hne, ih h.2]
      rfl

/-- Pairs whose names differ are a table. -/
theorem ofList_of_nodup {pairs : List (Text × β)} (h : (names pairs).Nodup) :
    ofList pairs = pairs := by
  suffices hgeneral : ∀ t : Table β, (names (t ++ pairs)).Nodup → putAll t pairs = t ++ pairs from
    hgeneral [] h
  clear h
  induction pairs with
  | nil => exact fun t _ => (List.append_nil t).symm
  | cons p pairs ih =>
      intro t h
      have hnew : p.1 ∉ names t := by
        simp only [names, List.map_append, List.map_cons] at h
        exact fun hmem => (List.nodup_append.1 h).2.2 _ hmem _ List.mem_cons_self rfl
      have hput : putAll t (p :: pairs) = putAll (t ++ [p]) pairs := by
        rw [← put_of_not_mem hnew]
        rfl
      rw [hput, ih, List.append_assoc, List.singleton_append]
      rwa [List.append_assoc, List.singleton_append]

end Table
end CodeSurvey
