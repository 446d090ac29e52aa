import CodeSurvey.Proofs.Json.Numbers
import CodeSurvey.Proofs.Json.Strings

/-!
# Values that are written and read back

Reading what was written gives the value back, and nothing after it is touched. The fuel is counted
in characters: a value takes at least one, and two calls come for each.

## Main definitions

* `Json.WellFormed limit v`: no name is repeated in `v`, its decimal numbers are spelled as such,
  and its integers are not longer than the limit.
* `Json.Reads limit v`: wherever `v` is written, it is read back.
-/

namespace CodeSurvey
namespace Json

/-- A value that can be told from its text: names are not repeated, decimal numbers are spelled as
such, and no integer has more digits than the limit, if there is one. -/
inductive WellFormed (limit : Option Nat) : Json → Prop
  | null : WellFormed limit null
  | bool (b : Bool) : WellFormed limit (bool b)
  | int {n : Int} (short : limit.any (· < (Text.ofNat n.natAbs).length) = false) :
      WellFormed limit (int n)
  | decimal {t : Text} (spelling : Spelling t) : WellFormed limit (decimal t)
  | string (t : Text) : WellFormed limit (string t)
  | array {items : List Json} (parts : ∀ v ∈ items, WellFormed limit v) :
      WellFormed limit (array items)
  | object {members : List (Text × Json)} (distinct : (Table.names members).Nodup)
      (parts : ∀ m ∈ members, WellFormed limit m.2) : WellFormed limit (object members)

section Reading

variable {limit : Option Nat} {t rest : Text}

/-! ## Between values -/

/-- What is an atom is read as one. -/
theorem value_of_atom {r : Json × Text} (h : atom limit t = .ok r) (fuel : Nat) :
    value limit none (fuel + 1) t = .ok r := by
  rw [value.eq_def]
  simp only
  split
  · exact absurd h nofun
  · exact absurd h nofun
  · exact absurd h nofun
  · exact h

/-- A value begins with no blank, and not like the end of an array. -/
theorem head?_of_value {fuel : Nat} {r : Json × Text} (h : value limit none fuel t = .ok r) :
    ∀ c ∈ t.head?, isSpace c = false ∧ c ≠ ']' := by
  cases fuel with
  | zero => exact absurd h nofun
  | succ fuel =>
      cases t with
      | nil => nofun
      | cons c t =>
          rintro _ ⟨⟩
          constructor
          · by_contra hspace
            simp only [isSpace, Bool.not_eq_false, Bool.or_eq_true, beq_iff_eq] at hspace
            rcases hspace with ((rfl | rfl) | rfl) | rfl <;> exact absurd h nofun
          · rintro rfl
            exact absurd h nofun

/-- Blanks are skipped, and nothing after them. -/
theorem skip_append_cons {blanks : Text} (hblanks : ∀ c ∈ blanks, isSpace c = true) {c : Char}
    (hc : isSpace c = false) (t : Text) : skip (blanks ++ c :: t) = c :: t := by
  rw [skip, List.dropWhile_append_of_pos hblanks, List.dropWhile_cons_of_neg (by simp [hc])]

/-- Blanks before a value are skipped, and nothing of the value. -/
theorem skip_append_of_value {blanks : Text} (hblanks : ∀ c ∈ blanks, isSpace c = true) {fuel : Nat}
    {r : Json × Text} (h : value limit none fuel t = .ok r) : skip (blanks ++ t) = t := by
  cases t with
  | nil => exact absurd h (by cases fuel <;> nofun)
  | cons c t => exact skip_append_cons hblanks (head?_of_value h c rfl).1 t

theorem isSpace_of_mem_newLine (depth : Nat) : ∀ c ∈ newLine depth, isSpace c = true := by
  intro c hc
  rcases List.mem_cons.1 hc with rfl | hc
  · rfl
  · rw [List.eq_of_mem_replicate hc]
    rfl

/-! ## Arrays -/

/-- Wherever a value is written, it is read back, if there is fuel enough. -/
def Reads (limit : Option Nat) (v : Json) : Prop :=
  ∀ depth fuel rest, 2 * (printAt depth v).length ≤ fuel → Follows rest →
    value limit none fuel (printAt depth v ++ rest) = .ok (v, rest)

theorem follows_newLine (depth : Nat) (t : Text) : Follows (newLine depth ++ t) := by
  rintro _ ⟨⟩
  exact .inr rfl

theorem follows_printItems (depth : Nat) (items : List Json) (h : Follows t) :
    Follows (printItems depth items ++ t) := by
  cases items with
  | nil => exact h
  | cons v items =>
      rintro _ ⟨⟩
      exact .inl rfl

theorem itemsFrom_of_end {fuel outer : Nat} {v : Json} {done : List Json}
    (h : value limit none fuel t = .ok (v, newLine outer ++ ']' :: rest)) :
    itemsFrom limit none (fuel + 1) done t = .ok (array (done.reverse ++ [v]), rest) := by
  have hend : skip (newLine outer ++ ']' :: rest) = ']' :: rest :=
    skip_append_cons (isSpace_of_mem_newLine outer) rfl rest
  rw [itemsFrom, h]
  simp only [hend, List.reverse_cons]

theorem itemsFrom_of_comma {fuel depth : Nat} {v : Json} {done : List Json} {r : Json × Text}
    (h : value limit none fuel t = .ok (v, ',' :: (newLine depth ++ rest)))
    (hnext : value limit none fuel rest = .ok r) :
    itemsFrom limit none (fuel + 1) done t = itemsFrom limit none fuel (v :: done) rest := by
  have hcomma : skip (',' :: (newLine depth ++ rest)) = ',' :: (newLine depth ++ rest) :=
    @skip_append_cons [] nofun ',' rfl _
  rw [itemsFrom, h]
  simp only [hcomma, skip_append_of_value (isSpace_of_mem_newLine depth) hnext]

/-- The items of an array are read back one after the other. -/
theorem itemsFrom_print {v : Json} {items : List Json} (hv : Reads limit v)
    (hitems : ∀ w ∈ items, Reads limit w) (depth outer : Nat) (done : List Json) (rest : Text)
    {fuel : Nat} (hfuel : 2 * (printAt depth v ++ printItems depth items).length + 1 ≤ fuel) :
    itemsFrom limit none fuel done
        (printAt depth v ++ (printItems depth items ++ (newLine outer ++ ']' :: rest))) =
      .ok (array (done.reverse ++ v :: items), rest) := by
  have hfollows (items : List Json) :
      Follows (printItems depth items ++ (newLine outer ++ ']' :: rest)) :=
    follows_printItems depth items (follows_newLine outer _)
  -- on the items after the next one; each call has one unit of fuel less, and the text gets shorter
  induction items generalizing v done fuel with
  | nil =>
      obtain ⟨fuel, rfl⟩ := Nat.exists_eq_add_of_le' (Nat.le_of_add_left_le hfuel)
      rw [List.length_append] at hfuel
      exact itemsFrom_of_end (hv depth fuel _ (by omega) (hfollows []))
  | cons w items ih =>
      obtain ⟨fuel, rfl⟩ := Nat.exists_eq_add_of_le' (Nat.le_of_add_left_le hfuel)
      simp only [printItems, List.length_append, List.length_cons] at hfuel
      have hw := hitems w List.mem_cons_self
      have hnext := hw depth fuel _ (by omega) (hfollows items)
      have hread := hv depth fuel _ (by omega) (hfollows (w :: items))
      simp only [printItems, List.cons_append, List.append_assoc] at hread ⊢
      rw [itemsFrom_of_comma hread hnext,
        ih hw (fun x hx => hitems x (List.mem_cons_of_mem _ hx)) _
          (by rw [List.length_append]; omega)]
      simp

/-! ## Objects -/

theorem follows_printMembers (depth : Nat) (members : List (Text × Json)) (h : Follows t) :
    Follows (printMembers depth members ++ t) := by
  cases members with
  | nil => exact h
  | cons m members =>
      rintro _ ⟨⟩
      exact .inl rfl

theorem encode_append (name t : Text) :
    encode name ++ t = '"' :: (name.flatMap encodeChar ++ '"' :: t) := by
  simp [encode]

theorem skip_colon (t : Text) : skip (": ".toList ++ t) = ':' :: ([' '] ++ t) :=
  @skip_append_cons [] nofun ':' rfl _

theorem isSpace_of_mem_space : ∀ c ∈ [' '], isSpace c = true :=
  List.forall_mem_singleton.2 rfl

theorem membersFrom_of_end {fuel outer : Nat} {name : Text} {v : Json}
    {done : List (Text × Json)}
    (h : value limit none fuel t = .ok (v, newLine outer ++ '\x7d' :: rest)) :
    membersFrom limit none (fuel + 1) done (encode name ++ (": ".toList ++ t)) =
      .ok (object (Table.ofList (done.reverse ++ [(name, v)])), rest) := by
  have hvalue : skip ([' '] ++ t) = t := skip_append_of_value isSpace_of_mem_space h
  have hend : skip (newLine outer ++ '\x7d' :: rest) = '\x7d' :: rest :=
    skip_append_cons (isSpace_of_mem_newLine outer) rfl rest
  rw [encode_append, membersFrom, stringFrom_flatMap]
  simp only [skip_colon, hvalue, h, hend, List.reverse_nil, List.nil_append, List.reverse_cons]

theorem membersFrom_of_comma {fuel depth : Nat} {name next : Text} {v : Json}
    {done : List (Text × Json)}
    (h : value limit none fuel t = .ok (v, ',' :: (newLine depth ++ (encode next ++ rest)))) :
    membersFrom limit none (fuel + 1) done (encode name ++ (": ".toList ++ t)) =
      membersFrom limit none fuel ((name, v) :: done) (encode next ++ rest) := by
  have hvalue : skip ([' '] ++ t) = t := skip_append_of_value isSpace_of_mem_space h
  have hcomma (t : Text) : skip (',' :: t) = ',' :: t := @skip_append_cons [] nofun ',' rfl _
  have hnext : skip (newLine depth ++ (encode next ++ rest)) = encode next ++ rest :=
    skip_append_cons (isSpace_of_mem_newLine depth) rfl _
  rw [encode_append name, membersFrom, stringFrom_flatMap]
  simp only [skip_colon, hvalue, h, hcomma, hnext, List.reverse_nil, List.nil_append]

/-- The members of an object are read back one after the other. -/
theorem membersFrom_print {v : Json} {members : List (Text × Json)} (hv : Reads limit v)
    (hmembers : ∀ m ∈ members, Reads limit m.2) (depth outer : Nat) (done : List (Text × Json))
    (rest : Text) {fuel : Nat}
    (hfuel : 2 * (printAt depth v ++ printMembers depth members).length + 1 ≤ fuel)
    (name : Text) :
    membersFrom limit none fuel done (encode name ++ (": ".toList ++ (printAt depth v ++
        (printMembers depth members ++ (newLine outer ++ '\x7d' :: rest))))) =
      .ok (object (Table.ofList (done.reverse ++ (name, v) :: members)), rest) := by
  have hfollows (members : List (Text × Json)) :
      Follows (printMembers depth members ++ (newLine outer ++ '\x7d' :: rest)) :=
    follows_printMembers depth members (follows_newLine outer _)
  induction members generalizing name v done fuel with
  | nil =>
      obtain ⟨fuel, rfl⟩ := Nat.exists_eq_add_of_le' (Nat.le_of_add_left_le hfuel)
      rw [List.length_append] at hfuel
      exact membersFrom_of_end (hv depth fuel _ (by omega) (hfollows []))
  | cons m members ih =>
      obtain ⟨next, w⟩ := m
      obtain ⟨fuel, rfl⟩ := Nat.exists_eq_add_of_le' (Nat.le_of_add_left_le hfuel)
      simp only [printMembers, List.length_append, List.length_cons] at hfuel
      have hw : Reads limit w := hmembers _ List.mem_cons_self
      have hread := hv depth fuel _ (by omega) (hfollows ((next, w) :: members))
      simp only [printMembers, List.cons_append, List.append_assoc] at hread ⊢
      rw [membersFrom_of_comma hread,
        ih hw (fun x hx => hmembers x (List.mem_cons_of_mem _ hx)) _
          (by rw [List.length_append]; omega)]
      simp

/-! ## Whole values -/

theorem reads_of_atom {v : Json} {t : Text} (ht : ∀ depth, printAt depth v = t) (hne : t ≠ [])
    (h : ∀ rest, Follows rest → atom limit (t ++ rest) = .ok (v, rest)) : Reads limit v := by
  intro depth fuel rest hfuel hrest
  have hpos := List.length_pos_iff.2 hne
  rw [ht] at hfuel ⊢
  obtain ⟨fuel, rfl⟩ := Nat.exists_eq_add_of_le' (show 1 ≤ fuel by omega)
  exact value_of_atom (h rest hrest) fuel

theorem reads_string (s : Text) : Reads limit (string s) := by
  intro depth fuel rest hfuel hrest
  simp only [printAt, encode, List.length_cons] at hfuel
  obtain ⟨fuel, rfl⟩ := Nat.exists_eq_add_of_le' (show 1 ≤ fuel by omega)
  rw [printAt, encode_append, value, stringFrom_flatMap]
  rfl

theorem value_of_items (depth : Nat) {fuel : Nat} {r r' : Json × Text}
    (hfirst : value limit none fuel t = .ok r') (h : itemsFrom limit none (fuel + 1) [] t = .ok r) :
    value limit none (fuel + 2) ('[' :: (newLine depth ++ t)) = .ok r := by
  have hskip := skip_append_of_value (isSpace_of_mem_newLine depth) hfirst
  rw [value, hskip]
  simp only [inner?]
  -- what begins with the end of an array is no value
  split
  next rest => exact absurd rfl (head?_of_value hfirst ']' rfl).2
  next => exact h

theorem reads_array {items : List Json} (h : ∀ v ∈ items, Reads limit v) :
    Reads limit (array items) := by
  intro depth fuel rest hfuel hrest
  cases items with
  | nil =>
      rw [printAt] at hfuel
      obtain ⟨fuel, rfl⟩ := Nat.exists_eq_add_of_le' (Nat.le_of_succ_le hfuel)
      rfl
  | cons v items =>
      simp only [printAt, List.length_cons, List.length_append] at hfuel
      obtain ⟨fuel, rfl⟩ := Nat.exists_eq_add_of_le' (show 2 ≤ fuel by omega)
      have hv := h v List.mem_cons_self
      have hfirst := hv (depth + 1) fuel _ (by omega) (follows_printItems (depth + 1) items
        (follows_newLine depth (']' :: rest)))
      have hroom : 2 * (printAt (depth + 1) v ++ printItems (depth + 1) items).length + 1 ≤
          fuel + 1 := by
        rw [List.length_append]
        omega
      have hitems := itemsFrom_print hv (fun w hw => h w (List.mem_cons_of_mem _ hw)) (depth + 1)
        depth [] rest hroom
      have hvalue := value_of_items (depth + 1) hfirst hitems
      simpa only [printAt, List.cons_append, List.append_assoc, List.nil_append,
        List.reverse_nil] using hvalue

theorem value_of_members (depth : Nat) {fuel : Nat} {name : Text} {r : Json × Text}
    (h : membersFrom limit none fuel [] (encode name ++ t) = .ok r) :
    value limit none (fuel + 1) ('\x7b' :: (newLine depth ++ (encode name ++ t))) = .ok r := by
  have hskip : skip (newLine depth ++ (encode name ++ t)) = encode name ++ t :=
    skip_append_cons (isSpace_of_mem_newLine depth) rfl _
  rw [value, hskip]
  exact h

theorem reads_object {members : List (Text × Json)} (distinct : (Table.names members).Nodup)
    (h : ∀ m ∈ members, Reads limit m.2) : Reads limit (object members) := by
  intro depth fuel rest hfuel hrest
  cases members with
  | nil =>
      rw [printAt] at hfuel
      obtain ⟨fuel, rfl⟩ := Nat.exists_eq_add_of_le' (Nat.le_of_succ_le hfuel)
      rfl
  | cons m members =>
      obtain ⟨name, v⟩ := m
      simp only [printAt, List.length_cons, List.length_append] at hfuel
      obtain ⟨fuel, rfl⟩ := Nat.exists_eq_add_of_le' (show 1 ≤ fuel by omega)
      have hroom : 2 * (printAt (depth + 1) v ++ printMembers (depth + 1) members).length + 1 ≤
          fuel := by
        rw [List.length_append]
        omega
      have hmembers := membersFrom_print (h (name, v) List.mem_cons_self)
        (fun w hw => h w (List.mem_cons_of_mem _ hw)) (depth + 1) depth [] rest hroom
      have hvalue := value_of_members (depth + 1) (hmembers name)
      simpa only [printAt, List.cons_append, List.append_assoc, List.nil_append,
        List.reverse_nil, Table.ofList_of_nodup distinct] using hvalue

/-- What is well formed is read back wherever it is written. -/
theorem WellFormed.reads {v : Json} (h : WellFormed limit v) : Reads limit v := by
  induction h with
  | null => exact reads_of_atom (fun _ => rfl) (List.cons_ne_nil _ _) fun _ _ => rfl
  | bool b => cases b <;> exact reads_of_atom (fun _ => rfl) (List.cons_ne_nil _ _) fun _ _ => rfl
  | int short =>
      exact reads_of_atom (fun _ => rfl) (ofInt_ne_nil _) fun _ hrest => atom_ofInt short hrest
  | decimal spelling =>
      exact reads_of_atom (fun _ => rfl) spelling.ne_nil fun _ hrest => spelling.atom_append hrest
  | string t => exact reads_string t
  | array _ ih => exact reads_array ih
  | object distinct _ ih => exact reads_object distinct ih

/-- What is well formed is read back from its text, new lines after it or not. -/
theorem WellFormed.parseWithin_print {v : Json} (h : WellFormed limit v)
    (hrest : ∀ c ∈ rest, c = '\n') : parseWithin limit (print v ++ rest) = .ok v := by
  have hread :
      value limit none (2 * (print v ++ rest).length + 2) (print v ++ rest) = .ok (v, rest) :=
    h.reads 0 _ rest (by rw [List.length_append, print]; omega)
      fun c hc => .inr (hrest c (List.mem_of_mem_head? hc))
  have hstart : skip ([] ++ (print v ++ rest)) = print v ++ rest := skip_append_of_value nofun hread
  have hend : skip (rest ++ []) = [] :=
    List.dropWhile_append_of_pos fun c hc => by rw [hrest c hc]; rfl
  rw [List.nil_append] at hstart
  rw [List.append_nil] at hend
  rw [parseWithin, parseIn, hstart, hread]
  simp [hend]

/-- Texts tell well-formed values apart. -/
theorem WellFormed.eq_of_print_eq {v w : Json} (hv : WellFormed limit v) (hw : WellFormed limit w)
    (h : print v = print w) : v = w := by
  have hnothing : ∀ c ∈ ([] : Text), c = '\n' := nofun
  have hread := hv.parseWithin_print hnothing
  rw [h, hw.parseWithin_print hnothing] at hread
  exact (Except.ok.inj hread).symm

end Reading

/-! ## Characters -/

theorem newLine_ascii (depth : Nat) : ∀ c ∈ newLine depth, c.toNat < 0x80 := by
  intro c hc
  rcases List.mem_cons.1 hc with rfl | hc
  · decide
  · rw [List.eq_of_mem_replicate hc]
    decide

theorem printItems_ascii {depth : Nat} {items : List Json}
    (h : ∀ v ∈ items, ∀ c ∈ printAt depth v, c.toNat < 0x80) :
    ∀ c ∈ printItems depth items, c.toNat < 0x80 := by
  induction items with
  | nil => nofun
  | cons v items ih =>
      rw [List.forall_mem_cons] at h
      simp only [printItems, List.forall_mem_cons, List.forall_mem_append]
      exact ⟨by decide, ⟨newLine_ascii depth, h.1⟩, ih h.2⟩

theorem printMembers_ascii {depth : Nat} {members : List (Text × Json)}
    (h : ∀ m ∈ members, ∀ c ∈ printAt depth m.2, c.toNat < 0x80) :
    ∀ c ∈ printMembers depth members, c.toNat < 0x80 := by
  induction members with
  | nil => nofun
  | cons m members ih =>
      rw [List.forall_mem_cons] at h
      simp only [printMembers, List.forall_mem_cons, List.forall_mem_append]
      exact ⟨by decide, ⟨⟨⟨newLine_ascii depth, encode_ascii m.1⟩, by simp⟩, h.1⟩, ih h.2⟩

/-- Values are written in ASCII. -/
theorem WellFormed.ascii {limit : Option Nat} {v : Json} (h : WellFormed limit v) (depth : Nat) :
    ∀ c ∈ printAt depth v, c.toNat < 0x80 := by
  induction h generalizing depth with
  | null => simp [printAt]
  | bool b => cases b <;> simp [printAt]
  | int => exact ofInt_ascii _
  | decimal spelling => exact spelling.ascii
  | string t => exact encode_ascii t
  | @array items _ ih =>
      cases items with
      | nil => simp [printAt]
      | cons v items =>
          have hparts := List.forall_mem_cons.1 fun w hw => ih w hw (depth + 1)
          simp only [printAt, List.forall_mem_cons, List.forall_mem_append]
          exact ⟨by decide, ⟨⟨⟨newLine_ascii _, hparts.1⟩, printItems_ascii hparts.2⟩,
            newLine_ascii _⟩, by decide, nofun⟩
  | @object members _ _ ih =>
      cases members with
      | nil => simp [printAt]
      | cons m members =>
          have hparts := List.forall_mem_cons.1 fun w hw => ih w hw (depth + 1)
          simp only [printAt, List.forall_mem_cons, List.forall_mem_append]
          exact ⟨by decide, ⟨⟨⟨⟨⟨newLine_ascii _, encode_ascii _⟩, by simp⟩, hparts.1⟩,
            printMembers_ascii hparts.2⟩, newLine_ascii _⟩, by decide, nofun⟩

end Json
end CodeSurvey
