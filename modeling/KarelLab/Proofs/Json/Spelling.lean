import KarelLab.Proofs.Json.Tokens

namespace KarelLab.Json

/-- A document that a text can hold: no number in it was written in a short form, and no object
names a field twice. -/
inductive Exact : Json → Prop
  | null : Exact null
  | bool (b : Bool) : Exact (bool b)
  | int (n : Int) : Exact (int n)
  | string (s : String) : Exact (string s)
  | array {xs : List Json} (items : ∀ x ∈ xs, Exact x) : Exact (array xs)
  | object {fs : List (String × Json)} (keys : (fs.map Prod.fst).Nodup)
      (fields : ∀ f ∈ fs, Exact f.2) : Exact (object fs)

/-- A text from which a document is read, whatever stands behind it. -/
structure Spells (cs : List Char) (j : Json) : Prop where
  opens : ∃ c t, cs = c :: t ∧ isSpace c = false ∧ c ≠ ']'
  reads : ∀ n rest, Stops rest → cs.length < n → readValue n (cs ++ rest) = .ok (j, rest)

def Blank (cs : List Char) : Prop := ∀ c ∈ cs, isSpace c = true

variable {n : Nat} {c : Char} {cs rest space : List Char}

theorem skipSpace_blank (h : Blank space) (hc : isSpace c = false) (rest : List Char) :
    skipSpace (space ++ c :: rest) = c :: rest := by
  rw [skipSpace, List.dropWhile_append_of_pos h, List.dropWhile_cons_of_neg (by simp [hc])]

theorem Spells.skipSpace_eq {j : Json} (h : Spells cs j) (hs : Blank space) (rest : List Char) :
    skipSpace (space ++ (cs ++ rest)) = cs ++ rest := by
  obtain ⟨c, t, rfl, hc, -⟩ := h.opens
  exact skipSpace_blank hs hc (t ++ rest)

/-- White space is no part of a number. -/
theorem apart_of_isSpace (h : isSpace c = true) :
    Number.isDigit c = false ∧ c ≠ '.' ∧ c ≠ 'e' ∧ c ≠ 'E' := by
  simp only [isSpace, Bool.or_eq_true, beq_iff_eq] at h
  rcases h with ((rfl | rfl) | rfl) | rfl <;> decide

theorem stops_comma (rest : List Char) : Stops (',' :: rest) := by
  intro c hc
  cases hc
  decide

theorem Blank.stops (h : Blank space) (hc : c = ']' ∨ c = '\x7d') (rest : List Char) :
    Stops (space ++ c :: rest) := by
  intro d hd
  cases space with
  | nil =>
    cases hd
    rcases hc with rfl | rfl <;> decide
  | cons s space =>
    cases hd
    exact apart_of_isSpace (h d List.mem_cons_self)

section Leaves

theorem readWord_append (word : List Char) (j : Json) (rest : List Char) :
    readWord word j (word ++ rest) = .ok (j, rest) := by
  have hfront : word.isPrefixOf (word ++ rest) = true :=
    List.isPrefixOf_iff_prefix.mpr (List.prefix_append word rest)
  rw [readWord, if_pos hfront, List.drop_left]

/-- A text that is read as a value in one turn. -/
theorem spells_of_reads {j : Json} (ho : ∃ c t, cs = c :: t ∧ isSpace c = false ∧ c ≠ ']')
    (h : ∀ n rest, Stops rest → readValue (n + 1) (cs ++ rest) = .ok (j, rest)) : Spells cs j where
  opens := ho
  reads := by
    intro n rest hrest hn
    obtain ⟨m, rfl⟩ : ∃ m, n = m + 1 := ⟨n - 1, by omega⟩
    exact h m rest hrest

theorem spells_null : Spells "null".toList .null :=
  spells_of_reads ⟨'n', _, rfl, rfl, by decide⟩ fun _ rest _ => readWord_append "null".toList .null rest

theorem spells_bool (b : Bool) : Spells (compact (.bool b)).toList (.bool b) := by
  cases b with
  | false =>
    exact spells_of_reads ⟨'f', _, rfl, rfl, by decide⟩
      fun _ rest _ => readWord_append "false".toList (.bool false) rest
  | true =>
    exact spells_of_reads ⟨'t', _, rfl, rfl, by decide⟩
      fun _ rest _ => readWord_append "true".toList (.bool true) rest

theorem toList_encodeString (s : String) :
    (encodeString s).toList = '"' :: (s.toList.flatMap encodeChar ++ ['"']) := by
  simp [encodeString]

theorem spells_string (s : String) : Spells (encodeString s).toList (.string s) := by
  rw [toList_encodeString]
  refine spells_of_reads ⟨'"', _, rfl, rfl, by decide⟩ ?_
  intro n rest _
  have hread := readString_encodeString ('"' :: (s.toList.flatMap encodeChar ++ '"' :: rest)) s
    (Nat.le_succ (s.toList.flatMap encodeChar ++ '"' :: rest).length)
  rw [List.cons_append, List.append_assoc, List.singleton_append, readValue]
  rw [hread]
  rfl

/-- A digit, also behind a minus sign, begins a number and nothing else. -/
theorem readValue_digit (n : Nat) (hc : Number.isDigit c = true) (rest : List Char) :
    readValue (n + 1) (c :: rest) = readNumber (c :: rest) ∧
      readValue (n + 1) ('-' :: c :: rest) = readNumber ('-' :: c :: rest) := by
  refine ⟨?_, ?_⟩
  · rw [readValue.eq_def]
    dsimp only
    split
    case h_1 =>
      rename_i heq
      cases heq
    case h_11 => rfl
    -- every other case begins with a character that is no digit
    all_goals
      rename_i heq
      cases heq
      exact absurd hc (by decide)
  · rw [readValue.eq_def]
    dsimp only
    split
    case h_10 =>
      rename_i heq
      cases heq
      exact absurd hc (by decide)
    case h_11 => rfl
    -- every other case begins without a minus sign
    all_goals
      rename_i heq
      cases heq

theorem spells_int (k : Int) : Spells (toString k).toList (.int k) := by
  -- a number is told from blanks and brackets by its first digit
  have hhead (m : Nat) : ∃ c t, Nat.toDigits 10 m = c :: t ∧ Number.isDigit c = true := by
    obtain ⟨c, t, ht⟩ := List.exists_cons_of_ne_nil (Nat.toDigits_ne_nil (n := m) (b := 10))
    exact ⟨c, t, ht, isDigit_of_mem_toDigits (by rw [ht]; exact List.mem_cons_self)⟩
  cases k with
  | ofNat k =>
    have ht : (toString (Int.ofNat k)).toList = Nat.toDigits 10 k := by
      change (Nat.repr k).toList = _
      rw [Nat.repr_eq_ofList_toDigits, String.toList_ofList]
    rw [ht]
    obtain ⟨c, t, hct, hc⟩ := hhead k
    have hspace : isSpace c = false := by
      refine Bool.eq_false_iff.mpr fun hs => ?_
      rw [(apart_of_isSpace hs).1] at hc
      cases hc
    have hclose : c ≠ ']' := by
      rintro rfl
      cases hc
    refine spells_of_reads ⟨c, t, hct, hspace, hclose⟩ ?_
    intro n rest hrest
    have hread := (readNumber_toDigits k hrest).1
    rw [hct, List.cons_append] at hread ⊢
    rw [(readValue_digit n hc (t ++ rest)).1, hread]
    rfl
  | negSucc k =>
    have ht : (toString (Int.negSucc k)).toList = '-' :: Nat.toDigits 10 (k + 1) := by
      change ("-" ++ Nat.repr (k + 1)).toList = _
      rw [String.toList_append, Nat.repr_eq_ofList_toDigits, String.toList_ofList]
      simp
    rw [ht]
    obtain ⟨c, t, hct, hc⟩ := hhead (k + 1)
    refine spells_of_reads ⟨'-', _, rfl, rfl, by decide⟩ ?_
    intro n rest hrest
    have hread := (readNumber_toDigits (k + 1) hrest).2
    rw [hct, List.cons_append] at hread
    rw [hct, List.cons_append, List.cons_append, (readValue_digit n hc (t ++ rest)).2, hread]
    rfl

end Leaves

section Wholes

variable {text : Json → List Char} {final gap : List Char}

def moreItems (text : Json → List Char) (space : List Char) (xs : List Json) : List Char :=
  xs.flatMap fun x => ',' :: (space ++ text x)

theorem readItems_last {x : Json} {after : List Char} (hx : readValue n cs = .ok (x, after))
    (ha : skipSpace after = ']' :: rest) (done : List Json) :
    readItems (n + 1) done cs = .ok ((x :: done).reverse, rest) := by
  rw [readItems, hx]
  dsimp only
  rw [ha]
  rfl

theorem readItems_next {x : Json} {after : List Char} (hx : readValue n cs = .ok (x, after))
    (ha : skipSpace after = ',' :: rest) (done : List Json) :
    readItems (n + 1) done cs = readItems n (x :: done) (skipSpace rest) := by
  rw [readItems, hx]
  dsimp only
  rw [ha]
  rfl

/-- The items of an array are read one after another, up to its end. -/
theorem readItems_spelled (hs : Blank space) (hf : Blank final) (rest : List Char) (xs : List Json)
    {x : Json} (h : ∀ y ∈ x :: xs, Spells (text y) y) (done : List Json) {n : Nat}
    (hn : (text x ++ moreItems text space xs).length + 1 < n) :
    readItems n done (text x ++ (moreItems text space xs ++ (final ++ ']' :: rest))) =
      .ok (done.reverse ++ x :: xs, rest) := by
  -- a turn reads one item and uses up one step, and at least the comma behind it pays for that
  induction xs generalizing x done n with
  | nil =>
    obtain ⟨m, rfl⟩ : ∃ m, n = m + 1 := ⟨n - 1, by omega⟩
    simp only [moreItems, List.flatMap_nil, List.append_nil, List.nil_append] at hn ⊢
    have hx := (h x List.mem_cons_self).reads m _ (hf.stops (.inl rfl) rest) (by omega)
    rw [readItems_last hx (skipSpace_blank hf rfl rest), List.reverse_cons]
  | cons y ys ih =>
    obtain ⟨m, rfl⟩ : ∃ m, n = m + 1 := ⟨n - 1, by omega⟩
    have hmore : moreItems text space (y :: ys) =
        ',' :: (space ++ (text y ++ moreItems text space ys)) := by
      simp [moreItems]
    rw [hmore] at hn ⊢
    simp only [List.length_append, List.length_cons] at hn
    simp only [List.cons_append, List.append_assoc]
    have hx := (h x List.mem_cons_self).reads m _ (stops_comma
      (space ++ (text y ++ (moreItems text space ys ++ (final ++ ']' :: rest))))) (by omega)
    have hy := h y (by simp)
    rw [readItems_next hx rfl, hy.skipSpace_eq hs, ih (fun z hz => h z (List.mem_cons_of_mem x hz))]
    · simp
    · rw [List.length_append]
      omega

theorem Spells.array {x : Json} {xs : List Json} (hs : Blank space) (hf : Blank final)
    (h : ∀ y ∈ x :: xs, Spells (text y) y) :
    Spells ('[' :: (space ++ (text x ++ (moreItems text space xs ++ (final ++ [']'])))))
      (.array (x :: xs)) where
  opens := ⟨'[', _, rfl, rfl, by decide⟩
  reads := by
    intro n rest _ hn
    obtain ⟨m, rfl⟩ : ∃ m, n = m + 1 := ⟨n - 1, by omega⟩
    have hx := h x List.mem_cons_self
    have hitems := readItems_spelled hs hf rest xs h [] (n := m)
      (by simp only [List.length_append, List.length_cons] at hn ⊢; omega)
    obtain ⟨c, t, hc, -, hclose⟩ := hx.opens
    simp only [List.cons_append, List.append_assoc, List.nil_append]
    rw [readValue, hx.skipSpace_eq hs]
    -- an array that ends at once is none whose first item is spelled here
    split
    · rename_i heq
      rw [hc] at heq
      exact absurd (List.cons.inj heq).1 hclose
    · rw [hitems]
      rfl

def fieldText (text : Json → List Char) (gap : List Char) (f : String × Json) : List Char :=
  '"' :: (f.1.toList.flatMap encodeChar ++ '"' :: ':' :: (gap ++ text f.2))

def moreFields (text : Json → List Char) (gap space : List Char) (fs : List (String × Json)) :
    List Char :=
  fs.flatMap fun f => ',' :: (space ++ fieldText text gap f)

theorem setField_of_not_mem {key : String} {value : Json} {fs : List (String × Json)}
    (h : key ∉ fs.map Prod.fst) : setField key value fs = fs ++ [(key, value)] := by
  induction fs with
  | nil => rfl
  | cons f fs ih =>
    rw [List.map_cons, List.mem_cons, not_or] at h
    rw [setField, if_neg (Ne.symm h.1), ih h.2, List.cons_append]

variable {f : String × Json} {fs done : List (String × Json)} {after : List Char}

theorem setField_of_nodup (h : ((done ++ f :: fs).map Prod.fst).Nodup) :
    setField f.1 f.2 done = done ++ [f] := by
  refine setField_of_not_mem ?_
  rw [List.map_append, List.map_cons] at h
  intro hm
  exact (List.nodup_append.mp h).2.2 _ hm _ List.mem_cons_self rfl

/-- The field that comes next in an object is set, and a comma behind it announces another one. -/
theorem readFields_value (hg : Blank gap) (hf : Spells (text f.2) f.2) (hs : Stops after)
    (ha : skipSpace after = c :: rest) (hc : c = ',' ∨ c = '\x7d')
    (hn : (fieldText text gap f).length < n) (done : List (String × Json)) :
    readFields (n + 1) done (fieldText text gap f ++ after) =
      if c = ',' then readFields n (setField f.1 f.2 done) (skipSpace rest)
      else .ok (setField f.1 f.2 done, rest) := by
  have hkey := readString_encodeString
    ('"' :: (f.1.toList.flatMap encodeChar ++ '"' :: ':' :: (gap ++ (text f.2 ++ after))))
    f.1 (Nat.le_succ (f.1.toList.flatMap encodeChar ++ '"' :: ':' :: (gap ++ (text f.2 ++ after))).length)
  have hvalue := hf.reads n after hs (by simp [fieldText] at hn; omega)
  simp only [fieldText, List.cons_append, List.append_assoc]
  rw [readFields, hkey]
  dsimp only
  -- behind the key stands a colon, and behind that the value
  split
  · rename_i heq
    obtain rfl := (List.cons.inj heq).2
    rw [hf.skipSpace_eq hg, hvalue]
    dsimp only
    rw [ha]
    rcases hc with rfl | rfl <;> rfl
  · rename_i hno
    exact absurd rfl (hno _)

/-- The fields of an object are read one after another, up to its end. -/
theorem readFields_spelled (hg : Blank gap) (hs : Blank space) (hf : Blank final) (rest : List Char)
    (fs : List (String × Json)) {f : String × Json} (h : ∀ g ∈ f :: fs, Spells (text g.2) g.2)
    (done : List (String × Json)) (hk : ((done ++ f :: fs).map Prod.fst).Nodup) {n : Nat}
    (hn : (fieldText text gap f ++ moreFields text gap space fs).length + 1 < n) :
    readFields n done (fieldText text gap f ++ (moreFields text gap space fs ++
      (final ++ '\x7d' :: rest))) = .ok (done ++ f :: fs, rest) := by
  -- as for items; a key that none of the fields so far has is set behind them
  induction fs generalizing f done n with
  | nil =>
    obtain ⟨m, rfl⟩ : ∃ m, n = m + 1 := ⟨n - 1, by omega⟩
    simp only [moreFields, List.flatMap_nil, List.append_nil, List.nil_append] at hn ⊢
    rw [readFields_value hg (h f List.mem_cons_self) (hf.stops (.inr rfl) rest)
      (skipSpace_blank hf rfl rest) (.inr rfl) (by omega), setField_of_nodup hk]
    rfl
  | cons g gs ih =>
    obtain ⟨m, rfl⟩ : ∃ m, n = m + 1 := ⟨n - 1, by omega⟩
    have hmore : moreFields text gap space (g :: gs) =
        ',' :: (space ++ (fieldText text gap g ++ moreFields text gap space gs)) := by
      simp [moreFields]
    rw [hmore] at hn ⊢
    simp only [List.length_append, List.length_cons] at hn
    simp only [List.cons_append, List.append_assoc]
    have hskip (cs : List Char) :
        skipSpace (space ++ (fieldText text gap g ++ cs)) = fieldText text gap g ++ cs :=
      skipSpace_blank hs rfl _
    rw [readFields_value hg (h f List.mem_cons_self) (stops_comma _) rfl (.inl rfl) (by omega),
      setField_of_nodup hk, if_pos rfl, hskip, ih (fun k hk => h k (List.mem_cons_of_mem f hk))]
    · simp
    · simpa using hk
    · rw [List.length_append]
      omega

theorem Spells.object (hg : Blank gap) (hs : Blank space) (hf : Blank final)
    (hk : ((f :: fs).map Prod.fst).Nodup) (h : ∀ g ∈ f :: fs, Spells (text g.2) g.2) :
    Spells ('\x7b' :: (space ++ (fieldText text gap f ++ (moreFields text gap space fs ++
      (final ++ ['\x7d']))))) (.object (f :: fs)) where
  opens := ⟨'\x7b', _, rfl, rfl, by decide⟩
  reads := by
    intro n rest _ hn
    obtain ⟨m, rfl⟩ : ∃ m, n = m + 1 := ⟨n - 1, by omega⟩
    have hfields := readFields_spelled hg hs hf rest fs h [] hk (n := m)
      (by simp only [List.length_append, List.length_cons] at hn ⊢; omega)
    have hskip (cs : List Char) :
        skipSpace (space ++ (fieldText text gap f ++ cs)) = fieldText text gap f ++ cs :=
      skipSpace_blank hs rfl _
    simp only [List.cons_append, List.append_assoc, List.nil_append]
    rw [readValue, hskip]
    split
    · rename_i heq
      exact absurd (List.cons.inj heq).1 (by decide)
    · rw [hfields]
      rfl

end Wholes

section Writers

theorem toList_intercalate (separator x : String) (xs : List String) :
    (String.intercalate separator (x :: xs)).toList =
      x.toList ++ xs.flatMap fun y => separator.toList ++ y.toList := by
  rw [String.toList_intercalate]
  induction xs generalizing x with
  | nil => simp [List.intercalate]
  | cons y ys ih =>
    have hrest := ih y
    simp only [List.intercalate, List.map_cons] at hrest ⊢
    rw [List.intersperse_cons_cons, List.flatten_cons, List.flatten_cons, hrest]
    simp

theorem compactItems_eq_map (xs : List Json) : compactItems xs = xs.map compact := by
  induction xs with
  | nil => rfl
  | cons x xs ih => rw [compactItems, ih, List.map_cons]

theorem compactFields_eq_map (fs : List (String × Json)) :
    compactFields fs = fs.map fun f => encodeString f.1 ++ ":" ++ compact f.2 := by
  induction fs with
  | nil => rfl
  | cons f fs ih => rw [compactFields, ih, List.map_cons]

theorem indentedItems_eq_map (level : Nat) (xs : List Json) :
    indentedItems level xs = xs.map (indented level) := by
  induction xs with
  | nil => rfl
  | cons x xs ih => rw [indentedItems, ih, List.map_cons]

theorem indentedFields_eq_map (level : Nat) (fs : List (String × Json)) :
    indentedFields level fs = fs.map fun f => encodeString f.1 ++ ": " ++ indented level f.2 := by
  induction fs with
  | nil => rfl
  | cons f fs ih => rw [indentedFields, ih, List.map_cons]

theorem blank_newLine (level : Nat) : Blank (newLine level).toList := by
  intro c hc
  simp only [newLine, String.toList_append, String.toList_ofList, List.mem_append,
    List.mem_replicate] at hc
  rcases hc with hc | ⟨-, rfl⟩
  · obtain rfl := List.mem_singleton.mp hc
    rfl
  · rfl

theorem blank_nil : Blank [] := by
  intro c hc
  cases hc

/-- The form without spaces spells its document. -/
theorem Exact.spells_compact {j : Json} (h : Exact j) : Spells (compact j).toList j := by
  induction h with
  | null => exact spells_null
  | bool b => exact spells_bool b
  | int n => exact spells_int n
  | string s => exact spells_string s
  | @array xs items ih =>
    cases xs with
    | nil => exact spells_of_reads ⟨'[', _, rfl, rfl, by decide⟩ fun _ _ _ => rfl
    | cons x xs =>
      have htext : (compact (.array (x :: xs))).toList = '[' :: ([] ++ ((compact x).toList ++
          (moreItems (fun y => (compact y).toList) [] xs ++ ([] ++ [']'])))) := by
        rw [compact, compactItems_eq_map, List.map_cons, String.toList_append, String.toList_append,
          toList_intercalate]
        simp [moreItems, List.flatMap_map]
      rw [htext]
      exact Spells.array blank_nil blank_nil ih
  | @object fs keys fields ih =>
    cases fs with
    | nil => exact spells_of_reads ⟨'\x7b', _, rfl, rfl, by decide⟩ fun _ _ _ => rfl
    | cons f fs =>
      have htext : (compact (.object (f :: fs))).toList = '\x7b' :: ([] ++
          (fieldText (fun y => (compact y).toList) [] f ++
            (moreFields (fun y => (compact y).toList) [] [] fs ++ ([] ++ ['\x7d'])))) := by
        rw [compact, compactFields_eq_map, List.map_cons, String.toList_append, String.toList_append,
          toList_intercalate]
        simp [moreFields, fieldText, List.flatMap_map, toList_encodeString]
      rw [htext]
      exact Spells.object blank_nil blank_nil blank_nil keys ih

/-- The indented form spells its document, at every level. -/
theorem Exact.spells_indented {j : Json} (h : Exact j) (level : Nat) :
    Spells (indented level j).toList j := by
  induction h generalizing level with
  | null => exact spells_null
  | bool b => exact spells_bool b
  | int n => exact spells_int n
  | string s => exact spells_string s
  | @array xs items ih =>
    cases xs with
    | nil =>
      rw [indented]
      exact spells_of_reads ⟨'[', _, rfl, rfl, by decide⟩ fun _ _ _ => rfl
    | cons x xs =>
      have htext : (indented level (.array (x :: xs))).toList =
          '[' :: ((newLine (level + 1)).toList ++ ((indented (level + 1) x).toList ++
            (moreItems (fun y => (indented (level + 1) y).toList) (newLine (level + 1)).toList xs ++
              ((newLine level).toList ++ [']'])))) := by
        rw [indented, indentedItems_eq_map, List.map_cons]
        simp only [String.toList_append, toList_intercalate]
        simp [moreItems, List.flatMap_map]
      rw [htext]
      exact Spells.array (blank_newLine _) (blank_newLine _) fun y hy => ih y hy (level + 1)
  | @object fs keys fields ih =>
    cases fs with
    | nil =>
      rw [indented]
      exact spells_of_reads ⟨'\x7b', _, rfl, rfl, by decide⟩ fun _ _ _ => rfl
    | cons f fs =>
      have hgap : Blank [' '] := by
        intro c hc
        obtain rfl := List.mem_singleton.mp hc
        rfl
      have htext : (indented level (.object (f :: fs))).toList =
          '\x7b' :: ((newLine (level + 1)).toList ++
            (fieldText (fun y => (indented (level + 1) y).toList) [' '] f ++
              (moreFields (fun y => (indented (level + 1) y).toList) [' ']
                (newLine (level + 1)).toList fs ++ ((newLine level).toList ++ ['\x7d'])))) := by
        rw [indented, indentedFields_eq_map, List.map_cons]
        simp only [String.toList_append, toList_intercalate]
        simp [moreFields, fieldText, List.flatMap_map, toList_encodeString]
      rw [htext]
      exact Spells.object hgap (blank_newLine _) (blank_newLine _) keys fun g hg => ih g hg (level + 1)

/-- The document that a text spells is what the text is read as. -/
theorem parse_of_spells {s : String} {j : Json} (h : Spells s.toList j) : parse s = .ok j := by
  have hstart : skipSpace s.toList = s.toList := by
    have hskip := h.skipSpace_eq blank_nil []
    rwa [List.nil_append, List.append_nil] at hskip
  have hread : readValue (s.toList.length + 1) s.toList = .ok (j, []) := by
    have hall := h.reads (s.toList.length + 1) [] (by intro c hc; cases hc) (Nat.lt_succ_self _)
    rwa [List.append_nil] at hall
  unfold parse
  dsimp only
  rw [hstart, hread]
  rfl

end Writers

/-- A document comes back from both of its written forms. -/
theorem Exact.parse_eq {j : Json} (h : Exact j) :
    parse j.compact = .ok j ∧ parse (j.indented 0) = .ok j :=
  ⟨parse_of_spells h.spells_compact, parse_of_spells (h.spells_indented 0)⟩

end KarelLab.Json
