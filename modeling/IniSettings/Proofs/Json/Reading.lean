import IniSettings.Proofs.Json.Tokens

/-!
# Reading values

The reader gives a value for a text exactly if some syntax tree of the grammar has that text and
that value. One direction is an induction on the tree, the other one on the fuel.
-/

namespace IniSettings.Json

variable {text rest : List Char}

/-! ## What each value begins with -/

theorem skipSpace_cons {c : Char} (token : isSpace c = false) (rest : List Char) :
    skipSpace (c :: rest) = c :: rest :=
  List.dropWhile_cons_of_neg (by simp [token])

theorem skipSpace_scalar (before : Blanks) (scalar : Scalar) (rest : List Char) :
    skipSpace (before.text ++ (scalar.text ++ rest)) = scalar.text ++ rest := by
  obtain ⟨c, more, whole, space, -⟩ := scalar.exists_head
  rw [skipSpace_blanks, whole, List.cons_append, skipSpace_cons space]

theorem Source.exists_head (source : Source) (rest : List Char) :
    ∃ c more, skipSpace (source.text ++ rest) = c :: more ∧ c ≠ ']' := by
  cases source with
  | scalar before scalar =>
    obtain ⟨c, more, whole, -, -, -, closing⟩ := scalar.exists_head
    rw [text, List.append_assoc, skipSpace_scalar, whole]
    exact ⟨c, _, rfl, closing⟩
  | emptyArray before inside =>
    rw [text, List.append_assoc, skipSpace_blanks]
    exact ⟨'[', _, rfl, by decide⟩
  | array before items =>
    rw [text, List.append_assoc, skipSpace_blanks]
    exact ⟨'[', _, rfl, by decide⟩
  | emptyObject before inside =>
    rw [text, List.append_assoc, skipSpace_blanks]
    exact ⟨'{', _, rfl, by decide⟩
  | object before members =>
    rw [text, List.append_assoc, skipSpace_blanks]
    exact ⟨'{', _, rfl, by decide⟩

theorem Items.exists_head (items : Items) (rest : List Char) :
    ∃ c more, skipSpace (items.text ++ rest) = c :: more ∧ c ≠ ']' := by
  cases items with
  | last item after =>
    rw [text, List.append_assoc]
    exact item.exists_head _
  | more item after later =>
    rw [text, List.append_assoc]
    exact item.exists_head _

theorem Members.exists_head (members : Members) (rest : List Char) :
    ∃ more, skipSpace (members.text ++ rest) = '"' :: more := by
  cases members with
  | last key value after =>
    rw [text, Key.text, List.append_assoc, List.append_assoc, skipSpace_blanks]
    exact ⟨_, rfl⟩
  | more key value after later =>
    rw [text, Key.text, List.append_assoc, List.append_assoc, skipSpace_blanks]
    exact ⟨_, rfl⟩

theorem length_pos_of_token {c : Char} {more : List Char}
    (begins : skipSpace (text ++ []) = c :: more) : 0 < text.length := by
  cases text with
  | nil => cases begins
  | cons => exact Nat.succ_pos _

theorem Source.length_pos (source : Source) : 0 < source.text.length := by
  obtain ⟨c, more, begins, -⟩ := source.exists_head []
  exact length_pos_of_token begins

theorem Items.length_pos (items : Items) : 0 < items.text.length := by
  obtain ⟨c, more, begins, -⟩ := items.exists_head []
  exact length_pos_of_token begins

theorem Members.length_pos (members : Members) : 0 < members.text.length := by
  obtain ⟨more, begins⟩ := members.exists_head []
  exact length_pos_of_token begins

/-- Where two calls are left for each character, one is left for this call. -/
theorem exists_fuel {length fuel : Nat} (positive : 0 < length) (enough : 2 * length ≤ fuel) :
    ∃ left, fuel = left + 1 :=
  ⟨fuel - 1, by omega⟩

theorem readValue_scalar (before : Blanks) (scalar : Scalar) (ends : Ends rest) (fuel : Nat) :
    readValue (fuel + 1) (before.text ++ (scalar.text ++ rest)) = some (scalar.value, rest) := by
  obtain ⟨c, more, whole, -, bracket, brace, -⟩ := scalar.exists_head
  have read := readScalar_scalar scalar ends
  rw [readValue, skipSpace_scalar]
  rw [whole] at read ⊢
  split
  next same => exact absurd (List.cons.inj same).1 bracket
  next same => exact absurd (List.cons.inj same).1 brace
  next => exact read

theorem readValue_array (before : Blanks) (items : Items) (rest : List Char) (fuel : Nat) :
    readValue (fuel + 1) (before.text ++ '[' :: (items.text ++ rest)) =
      (readItems fuel (items.text ++ rest)).map fun (items, rest) => (array items, rest) := by
  obtain ⟨c, more, begins, closing⟩ := items.exists_head rest
  rw [readValue, skipSpace_blanks, skipSpace_cons rfl]
  simp only [begins]
  split
  next same => exact absurd (List.cons.inj same).1 closing
  next => rfl

theorem readValue_object (before : Blanks) (members : Members) (rest : List Char) (fuel : Nat) :
    readValue (fuel + 1) (before.text ++ '{' :: (members.text ++ rest)) =
      (readMembers fuel (members.text ++ rest)).map fun (members, rest) =>
        (object members, rest) := by
  obtain ⟨more, begins⟩ := members.exists_head rest
  rw [readValue, skipSpace_blanks, skipSpace_cons rfl]
  simp only [begins]
  split
  next same => exact absurd (List.cons.inj same).1 (by decide)
  next => rfl

theorem skipSpace_blanks_cons (blanks : Blanks) {c : Char} (token : isSpace c = false)
    (rest : List Char) : skipSpace (blanks.text ++ c :: rest) = c :: rest := by
  rw [skipSpace_blanks, skipSpace_cons token]

theorem readValue_emptyArray (before inside : Blanks) (rest : List Char) (fuel : Nat) :
    readValue (fuel + 1) (before.text ++ '[' :: (inside.text ++ ']' :: rest)) =
      some (array [], rest) := by
  have closing : skipSpace (inside.text ++ ']' :: rest) = ']' :: rest :=
    skipSpace_blanks_cons inside rfl rest
  rw [readValue, skipSpace_blanks_cons before rfl]
  simp only [closing]

theorem readValue_emptyObject (before inside : Blanks) (rest : List Char) (fuel : Nat) :
    readValue (fuel + 1) (before.text ++ '{' :: (inside.text ++ '}' :: rest)) =
      some (object [], rest) := by
  have closing : skipSpace (inside.text ++ '}' :: rest) = '}' :: rest :=
    skipSpace_blanks_cons inside rfl rest
  rw [readValue, skipSpace_blanks_cons before rfl]
  simp only [closing]

theorem before_mark (after : Blanks) {mark : Char} (isMark : mark = ',' ∨ mark = ']' ∨ mark = '}')
    (rest : List Char) :
    Ends (after.text ++ mark :: rest) ∧
      skipSpace (after.text ++ mark :: rest) = mark :: rest := by
  refine ⟨(ends_mark isMark).blanks after, skipSpace_blanks_cons after ?_ rest⟩
  rcases isMark with rfl | rfl | rfl <;> rfl

-- By recursion on the tree. A part is shorter than the whole by at least one mark, which pays for
-- the call that reads it.
mutual

theorem readValue_source (source : Source) {fuel : Nat} (enough : 2 * source.text.length ≤ fuel)
    {rest : List Char} (ends : Ends rest) :
    readValue fuel (source.text ++ rest) = some (source.value, rest) := by
  obtain ⟨fuel, rfl⟩ := exists_fuel source.length_pos enough
  cases source with
  | scalar before scalar =>
    rw [Source.text, List.append_assoc]
    exact readValue_scalar before scalar ends fuel
  | emptyArray before inside =>
    have read := readValue_emptyArray before inside rest fuel
    simpa [Source.text, Source.value] using read
  | array before items =>
    have within : 2 * items.text.length ≤ fuel := by
      simp only [Source.text, List.length_append, List.length_cons] at enough
      omega
    rw [Source.text, List.append_assoc, List.cons_append, readValue_array,
      readItems_items items within rest]
    rfl
  | emptyObject before inside =>
    have read := readValue_emptyObject before inside rest fuel
    simpa [Source.text, Source.value] using read
  | object before members =>
    have within : 2 * members.text.length ≤ fuel := by
      simp only [Source.text, List.length_append, List.length_cons] at enough
      omega
    rw [Source.text, List.append_assoc, List.cons_append, readValue_object,
      readMembers_members members within rest]
    rfl

theorem readItems_items (items : Items) {fuel : Nat} (enough : 2 * items.text.length ≤ fuel)
    (rest : List Char) :
    readItems fuel (items.text ++ rest) = some (items.values, rest) := by
  obtain ⟨fuel, rfl⟩ := exists_fuel items.length_pos enough
  cases items with
  | last item after =>
    have within : 2 * item.text.length ≤ fuel := by
      simp only [Items.text, List.length_append, List.length_cons] at enough
      omega
    obtain ⟨ends, closing⟩ := before_mark after (.inr (.inl rfl)) rest
    have whole : (Items.last item after).text ++ rest =
        item.text ++ (after.text ++ ']' :: rest) := by
      simp [Items.text]
    rw [whole, readItems, readValue_source item within ends]
    simp only [closing]
    rfl
  | more item after later =>
    have within : 2 * item.text.length ≤ fuel ∧ 2 * later.text.length ≤ fuel := by
      simp only [Items.text, List.length_append, List.length_cons] at enough
      omega
    obtain ⟨ends, comma⟩ := before_mark after (.inl rfl) (later.text ++ rest)
    have whole : (Items.more item after later).text ++ rest =
        item.text ++ (after.text ++ ',' :: (later.text ++ rest)) := by
      simp [Items.text]
    rw [whole, readItems, readValue_source item within.1 ends]
    simp only [comma]
    rw [readItems_items later within.2 rest]
    rfl

theorem readMembers_members (members : Members) {fuel : Nat}
    (enough : 2 * members.text.length ≤ fuel) (rest : List Char) :
    readMembers fuel (members.text ++ rest) = some (members.values, rest) := by
  obtain ⟨fuel, rfl⟩ := exists_fuel members.length_pos enough
  cases members with
  | last key value after =>
    have within : 2 * value.text.length ≤ fuel := by
      simp only [Members.text, List.length_append, List.length_cons] at enough
      omega
    obtain ⟨ends, closing⟩ := before_mark after (.inr (.inr rfl)) rest
    have whole : (Members.last key value after).text ++ rest =
        key.text ++ (value.text ++ (after.text ++ '}' :: rest)) := by
      simp [Members.text]
    rw [whole, readMembers, readKey_key]
    simp only [readValue_source value within ends, closing]
    rfl
  | more key value after later =>
    have within : 2 * value.text.length ≤ fuel ∧ 2 * later.text.length ≤ fuel := by
      simp only [Members.text, List.length_append, List.length_cons] at enough
      omega
    obtain ⟨ends, comma⟩ := before_mark after (.inl rfl) (later.text ++ rest)
    have whole : (Members.more key value after later).text ++ rest =
        key.text ++ (value.text ++ (after.text ++ ',' :: (later.text ++ rest))) := by
      simp [Members.text]
    rw [whole, readMembers, readKey_key]
    simp only [readValue_source value within.1 ends, comma,
      readMembers_members later within.2 rest]
    rfl

end

/-! ## Recognition -/

-- By recursion on the fuel: what a call finds is built from what the calls within it find.
mutual

theorem exists_source (fuel : Nat) {text rest : List Char} {value : Json}
    (found : readValue fuel text = some (value, rest)) :
    ∃ source : Source, source.value = value ∧ text = source.text ++ rest := by
  cases fuel with
  | zero => cases found
  | succ fuel =>
    obtain ⟨before, outside⟩ := exists_blanks text
    rw [readValue] at found
    split at found
    next inner bracket =>
      obtain ⟨inside, between⟩ := exists_blanks inner
      split at found
      next closing =>
        cases found
        refine ⟨.emptyArray before inside, rfl, ?_⟩
        rw [outside, bracket, between, closing]
        simp [Source.text]
      next =>
        obtain ⟨⟨values, _⟩, read, whole⟩ := Option.map_eq_some_iff.1 found
        cases whole
        obtain ⟨items, rfl, rfl⟩ := exists_items fuel read
        refine ⟨.array before items, rfl, ?_⟩
        rw [outside, bracket]
        simp [Source.text]
    next inner brace =>
      obtain ⟨inside, between⟩ := exists_blanks inner
      split at found
      next closing =>
        cases found
        refine ⟨.emptyObject before inside, rfl, ?_⟩
        rw [outside, brace, between, closing]
        simp [Source.text]
      next =>
        obtain ⟨⟨values, _⟩, read, whole⟩ := Option.map_eq_some_iff.1 found
        cases whole
        obtain ⟨members, rfl, rfl⟩ := exists_members fuel read
        refine ⟨.object before members, rfl, ?_⟩
        rw [outside, brace]
        simp [Source.text]
    next =>
      obtain ⟨scalar, rfl, token⟩ := exists_scalar found
      refine ⟨.scalar before scalar, rfl, ?_⟩
      rw [outside, token]
      simp [Source.text]

theorem exists_items (fuel : Nat) {text rest : List Char} {values : List Json}
    (found : readItems fuel text = some (values, rest)) :
    ∃ items : Items, items.values = values ∧ text = items.text ++ rest := by
  cases fuel with
  | zero => cases found
  | succ fuel =>
    rw [readItems] at found
    split at found
    next => cases found
    next value left read =>
      obtain ⟨item, rfl, rfl⟩ := exists_source fuel read
      obtain ⟨after, between⟩ := exists_blanks left
      split at found
      next closing =>
        cases found
        refine ⟨.last item after, rfl, ?_⟩
        rw [between, closing]
        simp [Items.text]
      next comma =>
        obtain ⟨⟨values, _⟩, read, whole⟩ := Option.map_eq_some_iff.1 found
        cases whole
        obtain ⟨later, rfl, rfl⟩ := exists_items fuel read
        refine ⟨.more item after later, rfl, ?_⟩
        rw [between, comma]
        simp [Items.text]
      next => cases found

theorem exists_members (fuel : Nat) {text rest : List Char} {values : List (Option String × Json)}
    (found : readMembers fuel text = some (values, rest)) :
    ∃ members : Members, members.values = values ∧ text = members.text ++ rest := by
  cases fuel with
  | zero => cases found
  | succ fuel =>
    rw [readMembers] at found
    split at found
    next => cases found
    next name left read =>
      obtain ⟨key, rfl, rfl⟩ := exists_key read
      split at found
      next => cases found
      next value left read =>
        obtain ⟨source, rfl, rfl⟩ := exists_source fuel read
        obtain ⟨after, between⟩ := exists_blanks left
        split at found
        next closing =>
          cases found
          refine ⟨.last key source after, rfl, ?_⟩
          rw [between, closing]
          simp [Members.text]
        next comma =>
          obtain ⟨⟨values, _⟩, read, whole⟩ := Option.map_eq_some_iff.1 found
          cases whole
          obtain ⟨later, rfl, rfl⟩ := exists_members fuel read
          refine ⟨.more key source after later, rfl, ?_⟩
          rw [between, comma]
          simp [Members.text]
        next => cases found

end

theorem parse?_eq_some_iff {text : String} {value : Json} :
    parse? text = some value ↔
      ∃ written : Written, written.text = text ∧ written.value = value := by
  constructor
  · intro parsed
    unfold parse? at parsed
    split at parsed
    next read rest found =>
      split at parsed
      next nothing =>
        cases parsed
        obtain ⟨source, value, whole⟩ := exists_source _ found
        obtain ⟨after, end_⟩ := exists_blanks rest
        rw [List.isEmpty_iff.1 nothing, List.append_nil] at end_
        refine ⟨⟨source, after⟩, ?_, value⟩
        rw [Written.text, ← end_, ← whole, String.ofList_toList]
      next => cases parsed
    next => cases parsed
  · rintro ⟨⟨source, after⟩, rfl, rfl⟩
    have ends : Ends after.text := by
      simpa using ends_nil.blanks after
    have enough : 2 * source.text.length ≤ 2 * (source.text ++ after.text).length + 1 := by
      rw [List.length_append]
      omega
    rw [parse?, Written.text, String.toList_ofList, readValue_source source enough ends]
    simp [after.skipSpace_text, Written.value]

end IniSettings.Json
