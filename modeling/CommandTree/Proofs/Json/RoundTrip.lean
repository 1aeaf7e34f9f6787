import CommandTree.Proofs.Json.Basic
import CommandTree.Proofs.Json.Strings
import CommandTree.Proofs.Outcome

/-!
# Reading indented texts

What `Json.pretty` writes is read back as the same value, in spite of the white space, as long as
it has no numbers, no object lists a key twice, and arrays and objects are not nested too deeply.

* `Json.depth` counts how deeply arrays and objects are nested; `Json.Readable` excludes numbers and
  repeated keys.
* `Json.Readable.readsBack` : a value is read from the front of its text, and nothing else is.
* `Json.Readable.parse_pretty` : the text of a value, with white space after it, is read as that
  value.
-/

namespace CommandTree

namespace Json

/-! ### Depth and form -/

mutual

/-- How deeply arrays and objects are nested. -/
def depth : Json → Nat
  | .array items => 1 + depthItems items
  | .object members => 1 + depthMembers members
  | _ => 0

/-- The greatest depth of some items. -/
def depthItems : List Json → Nat
  | [] => 0
  | item :: rest => max item.depth (depthItems rest)

/-- The greatest depth of some members. -/
def depthMembers : List (String × Json) → Nat
  | [] => 0
  | (_, value) :: rest => max value.depth (depthMembers rest)

end

theorem depth_le_of_mem {item : Json} {items : List Json} (h : item ∈ items) :
    item.depth ≤ depthItems items := by
  induction items with
  | nil => cases h
  | cons first rest ih =>
    rw [depthItems]
    obtain rfl | hrest := List.mem_cons.1 h
    · exact Nat.le_max_left _ _
    · exact Nat.le_trans (ih hrest) (Nat.le_max_right _ _)

theorem depth_le_of_mem_members {member : String × Json} {members : Members Json}
    (h : member ∈ members) : member.2.depth ≤ depthMembers members := by
  induction members with
  | nil => cases h
  | cons first rest ih =>
    obtain ⟨key, value⟩ := first
    rw [depthMembers]
    obtain rfl | hrest := List.mem_cons.1 h
    · exact Nat.le_max_left _ _
    · exact Nat.le_trans (ih hrest) (Nat.le_max_right _ _)

/-- A value without numbers in which no object lists a key twice. -/
inductive Readable : Json → Prop
  | null : Readable null
  | bool (value : Bool) : Readable (bool value)
  | string (value : String) : Readable (string value)
  | array {items : List Json} (hitems : ∀ item ∈ items, Readable item) : Readable (array items)
  | object {members : Members Json} (hkeys : members.keys.Nodup)
      (hmembers : ∀ member ∈ members, Readable member.2) : Readable (object members)

theorem Readable.distinctKeys {value : Json} (h : value.Readable) : value.DistinctKeys := by
  induction h with
  | null => exact .null
  | bool value => exact .bool value
  | string value => exact .string value
  | array _ ih => exact .array ih
  | object hkeys _ ih => exact .object hkeys ih

/-! ### White space -/

/-- The characters between the parts of a value. -/
def IsSpace (c : Char) : Prop :=
  c = ' ' ∨ c = '\n' ∨ c = '\t' ∨ c = '\r'

theorem skipSpace_of_not_isSpace {c : Char} (h : ¬ IsSpace c) (rest : List Char) :
    skipSpace (c :: rest) = c :: rest := by
  unfold IsSpace at h
  rw [skipSpace, if_neg h]

theorem skipSpace_replicate (n : Nat) (rest : List Char) :
    skipSpace (List.replicate n ' ' ++ rest) = skipSpace rest := by
  induction n with
  | zero => rfl
  | succ n ih => simpa [List.replicate_succ, skipSpace] using ih

@[simp] theorem skipSpace_newline (level : Nat) (rest : List Char) :
    skipSpace (newline level ++ rest) = skipSpace rest := by
  simp [newline, skipSpace, skipSpace_replicate]

/-- The text of a value starts with a character that is neither white space nor a bracket that
closes an array. -/
theorem exists_prettyChars_eq_cons {value : Json} (h : value.Readable) (level : Nat) :
    ∃ c chars, prettyChars level value = c :: chars ∧ ¬ IsSpace c ∧ c ≠ ']' := by
  cases h with
  | null => exact ⟨'n', _, rfl, by simp [IsSpace], by decide⟩
  | bool value =>
    cases value with
    | true => exact ⟨'t', _, rfl, by simp [IsSpace], by decide⟩
    | false => exact ⟨'f', _, rfl, by simp [IsSpace], by decide⟩
  | string text => exact ⟨'"', _, rfl, by simp [IsSpace], by decide⟩
  | @array items _ =>
    cases items with
    | nil => exact ⟨'[', _, rfl, by simp [IsSpace], by decide⟩
    | cons item rest => exact ⟨'[', _, rfl, by simp [IsSpace], by decide⟩
  | @object members _ =>
    cases members with
    | nil => exact ⟨'\x7b', _, rfl, by simp [IsSpace], by decide⟩
    | cons member rest => exact ⟨'\x7b', _, rfl, by simp [IsSpace], by decide⟩

/-! ### Values -/

/-- A value is read from the front of its text if there is fuel for every character. -/
def ReadsBack (levels level : Nat) (value : Json) : Prop :=
  ∀ fuel after, (prettyChars level value).length ≤ fuel →
    readValue fuel levels (prettyChars level value ++ after) = .ok (value, after)

variable {levels level : Nat}

theorem readValue_quote (fuel levels : Nat) (chars : List Char) :
    readValue (fuel + 1) levels ('"' :: chars) = do
      let (text, rest) ← readString [] chars
      return (string text, rest) := by
  simp [readValue, skipSpace]

theorem readValue_array_nil {fuel : Nat} (h : 1 < levels) (after : List Char) :
    readValue (fuel + 1) levels ('[' :: ']' :: after) = .ok (array [], after) := by
  simp [readValue, skipSpace, Nat.not_le.2 h]

theorem readValue_array_cons {fuel : Nat} (h : 1 < levels) {chars rest : List Char} {c : Char}
    (hchars : skipSpace chars = c :: rest) (hc : c ≠ ']') :
    readValue (fuel + 1) levels ('[' :: chars) =
      readItems fuel (levels - 1) [] (c :: rest) := by
  simp [readValue, skipSpace, Nat.not_le.2 h, hchars, hc]

theorem readValue_object_nil {fuel : Nat} (h : 1 < levels) (after : List Char) :
    readValue (fuel + 1) levels ('\x7b' :: '\x7d' :: after) = .ok (object [], after) := by
  simp [readValue, skipSpace, Nat.not_le.2 h]

theorem readValue_object_cons {fuel : Nat} (h : 1 < levels) {chars rest : List Char}
    (hchars : skipSpace chars = '"' :: rest) :
    readValue (fuel + 1) levels ('\x7b' :: chars) =
      readMembers fuel (levels - 1) [] rest := by
  simp [readValue, skipSpace, Nat.not_le.2 h, hchars]

section Items

variable {fuel : Nat} {done : List Json} {item : Json}
variable {text rest chars after : List Char} {c : Char}

theorem readItems_last (hitem : readValue fuel levels text = .ok (item, rest))
    (hrest : skipSpace rest = ']' :: after) :
    readItems (fuel + 1) levels done text = .ok (array (item :: done).reverse, after) := by
  simp [readItems, hitem, hrest]

theorem readItems_next (hitem : readValue fuel levels text = .ok (item, rest))
    (hrest : skipSpace rest = ',' :: after) (hafter : skipSpace after = c :: chars)
    (hc : c ≠ ']') :
    readItems (fuel + 1) levels done text =
      readItems fuel levels (item :: done) (c :: chars) := by
  simp [readItems, hitem, hrest, hafter, hc]

end Items

section Members

variable {fuel : Nat} {done : Members Json} {key : String} {value : Json}
  {text before rest chars after : List Char}

theorem readMembers_last (hkey : readString [] text = .ok (key, ':' :: before))
    (hvalue : readValue fuel levels before = .ok (value, rest))
    (hrest : skipSpace rest = '\x7d' :: after) :
    readMembers (fuel + 1) levels done text = .ok (object (done.insert key value), after) := by
  simp [readMembers, hkey, skipSpace, hvalue, hrest]

theorem readMembers_next (hkey : readString [] text = .ok (key, ':' :: before))
    (hvalue : readValue fuel levels before = .ok (value, rest))
    (hrest : skipSpace rest = ',' :: after) (hafter : skipSpace after = '"' :: chars) :
    readMembers (fuel + 1) levels done text =
      readMembers fuel levels (done.insert key value) chars := by
  simp [readMembers, hkey, skipSpace, hvalue, hrest, hafter]

end Members

/-! ### Whole values -/

/-- The white space before a value is skipped, and the value is still there. -/
theorem skipSpace_prettyChars {value : Json} (h : value.Readable) (level : Nat)
    (after : List Char) :
    ∃ c chars, prettyChars level value ++ after = c :: chars ∧ c ≠ ']' ∧
      skipSpace (newline level ++ (prettyChars level value ++ after)) = c :: chars := by
  obtain ⟨c, chars, hchars, hspace, hc⟩ := exists_prettyChars_eq_cons h level
  refine ⟨c, chars ++ after, by simp [hchars], hc, ?_⟩
  rw [skipSpace_newline, hchars, List.cons_append, skipSpace_of_not_isSpace hspace]

/-- The white space before a key is skipped, and the key is still there. -/
theorem skipSpace_key (key : String) (level : Nat) (after : List Char) :
    skipSpace (newline level ++ (quoteChars key.toList ++ after)) =
      '"' :: (key.toList.flatMap escapeChar ++ '"' :: after) := by
  simp [quoteChars, skipSpace]

theorem readItems_eq {items : List Json} {item : Json} (hitem : item.ReadsBack levels (level + 1))
    (hitems : ∀ other ∈ items, other.Readable ∧ other.ReadsBack levels (level + 1))
    (done : List Json) (after : List Char) (fuel : Nat)
    (hfuel : (prettyChars (level + 1) item).length + (prettyItems level items).length < fuel) :
    readItems fuel levels done
        (prettyChars (level + 1) item ++ (prettyItems level items ++ after)) =
      .ok (array (done.reverse ++ item :: items), after) := by
  obtain ⟨fuel, rfl⟩ := Nat.exists_eq_add_one_of_ne_zero (Nat.ne_zero_of_lt hfuel)
  induction items generalizing item fuel done with
  | nil =>
    have hend : skipSpace (prettyItems level [] ++ after) = ']' :: after := by
      simp [prettyItems, skipSpace]
    rw [readItems_last (hitem fuel _ (by omega)) hend]
    simp
  | cons next rest ih =>
    obtain ⟨⟨hreadable, hnext⟩, hrest⟩ := List.forall_mem_cons.1 hitems
    obtain ⟨c, chars, hchars, hc, hstart⟩ := skipSpace_prettyChars hreadable (level + 1)
      (prettyItems level rest ++ after)
    have hcomma : skipSpace (prettyItems level (next :: rest) ++ after) =
        ',' :: (newline (level + 1) ++
          (prettyChars (level + 1) next ++ (prettyItems level rest ++ after))) := by
      simp [prettyItems, skipSpace]
    simp only [prettyItems, List.length_cons, List.length_append] at hfuel
    obtain ⟨fuel, rfl⟩ : ∃ n, fuel = n + 1 := Nat.exists_eq_add_one_of_ne_zero (by omega)
    rw [readItems_next (hitem _ _ (by omega)) hcomma hstart hc, ← hchars,
      ih hnext hrest (item :: done) fuel (by omega)]
    simp

theorem length_newline_pos (level : Nat) : 0 < (newline level).length := by
  simp [newline]

theorem readsBack_array {items : List Json} (hlevels : 1 < levels)
    (hitems : ∀ item ∈ items, item.Readable ∧ item.ReadsBack (levels - 1) (level + 1)) :
    (array items).ReadsBack levels level := by
  intro fuel after hfuel
  cases items with
  | nil =>
    obtain ⟨fuel, rfl⟩ : ∃ n, fuel = n + 1 :=
      Nat.exists_eq_add_one_of_ne_zero (by simp [prettyChars] at hfuel; omega)
    exact readValue_array_nil hlevels after
  | cons item rest =>
    obtain ⟨⟨hreadable, hitem⟩, hrest⟩ := List.forall_mem_cons.1 hitems
    obtain ⟨c, chars, hchars, hc, hstart⟩ := skipSpace_prettyChars hreadable (level + 1)
      (prettyItems level rest ++ after)
    have hnewline := length_newline_pos (level + 1)
    simp only [prettyChars, List.length_cons, List.length_append] at hfuel
    obtain ⟨fuel, rfl⟩ : ∃ n, fuel = n + 1 := Nat.exists_eq_add_one_of_ne_zero (by omega)
    have hread := readItems_eq hitem hrest [] after fuel (by omega)
    simp only [prettyChars, List.cons_append, List.append_assoc]
    rw [readValue_array_cons hlevels hstart hc, ← hchars, hread]
    simp

/-- A key is read up to the colon behind it. -/
theorem readString_key (key : String) (chars : List Char) :
    readString [] (key.toList.flatMap escapeChar ++ '"' :: ':' :: chars) =
      .ok (key, ':' :: chars) :=
  readString_quoteChars key _

/-- A value is read back after a blank. -/
theorem ReadsBack.readValue_space {value : Json} (h : value.ReadsBack levels level)
    (after : List Char) {fuel : Nat} (hfuel : (prettyChars level value).length < fuel) :
    readValue fuel levels (' ' :: (prettyChars level value ++ after)) = .ok (value, after) := by
  obtain ⟨fuel, rfl⟩ := Nat.exists_eq_add_one_of_ne_zero (Nat.ne_zero_of_lt hfuel)
  rw [← h (fuel + 1) after (by omega), readValue, readValue]
  rfl

theorem readMembers_eq {members : Members Json} {key : String} {value : Json}
    (hvalue : value.ReadsBack levels (level + 1))
    (hmembers : ∀ member ∈ members, member.2.ReadsBack levels (level + 1))
    (done : Members Json) (distinct : (Members.keys (done ++ (key, value) :: members)).Nodup)
    (after : List Char) (fuel : Nat)
    (hfuel : (prettyChars (level + 1) value).length + (prettyMembers level members).length < fuel) :
    readMembers fuel levels done (key.toList.flatMap escapeChar ++ '"' :: ':' :: ' ' ::
        (prettyChars (level + 1) value ++ (prettyMembers level members ++ after))) =
      .ok (object (done ++ (key, value) :: members), after) := by
  obtain ⟨fuel, rfl⟩ := Nat.exists_eq_add_one_of_ne_zero (Nat.ne_zero_of_lt hfuel)
  induction members generalizing key value fuel done with
  | nil =>
    have hend : skipSpace (prettyMembers level [] ++ after) = '\x7d' :: after := by
      simp [prettyMembers, skipSpace]
    have hlength : 0 < (prettyMembers level []).length := by simp [prettyMembers]
    rw [readMembers_last (readString_key key _) (hvalue.readValue_space _ (by omega)) hend,
      Members.insert_of_nodup distinct]
  | cons next rest ih =>
    obtain ⟨nextKey, next⟩ := next
    have hnext : next.ReadsBack levels (level + 1) := hmembers _ List.mem_cons_self
    have hrest := fun member hmember => hmembers member (List.mem_cons_of_mem _ hmember)
    have hcomma : skipSpace (prettyMembers level ((nextKey, next) :: rest) ++ after) =
        ',' :: (newline (level + 1) ++ (quoteChars nextKey.toList ++ ':' :: ' ' ::
          (prettyChars (level + 1) next ++ (prettyMembers level rest ++ after)))) := by
      simp [prettyMembers, skipSpace]
    have hstart := skipSpace_key nextKey (level + 1)
      (':' :: ' ' :: (prettyChars (level + 1) next ++ (prettyMembers level rest ++ after)))
    simp only [prettyMembers, List.length_cons, List.length_append] at hfuel
    obtain ⟨fuel, rfl⟩ : ∃ n, fuel = n + 1 := Nat.exists_eq_add_one_of_ne_zero (by omega)
    rw [readMembers_next (readString_key key _) (hvalue.readValue_space _ (by omega)) hcomma hstart,
      Members.insert_of_nodup distinct,
      ih hnext hrest (done ++ [(key, value)]) (by simpa using distinct) fuel (by omega)]
    simp

theorem readsBack_object {members : Members Json} (hlevels : 1 < levels)
    (distinct : members.keys.Nodup)
    (hmembers : ∀ member ∈ members, member.2.ReadsBack (levels - 1) (level + 1)) :
    (object members).ReadsBack levels level := by
  intro fuel after hfuel
  cases members with
  | nil =>
    obtain ⟨fuel, rfl⟩ : ∃ n, fuel = n + 1 :=
      Nat.exists_eq_add_one_of_ne_zero (by simp [prettyChars] at hfuel; omega)
    exact readValue_object_nil hlevels after
  | cons member rest =>
    obtain ⟨key, value⟩ := member
    have hvalue : value.ReadsBack (levels - 1) (level + 1) := hmembers _ List.mem_cons_self
    have hrest := fun member hmember => hmembers member (List.mem_cons_of_mem _ hmember)
    have hnewline := length_newline_pos (level + 1)
    simp only [prettyChars, List.length_cons, List.length_append] at hfuel
    obtain ⟨fuel, rfl⟩ : ∃ n, fuel = n + 1 := Nat.exists_eq_add_one_of_ne_zero (by omega)
    have hstart := skipSpace_key key (level + 1)
      (':' :: ' ' :: (prettyChars (level + 1) value ++ (prettyMembers level rest ++ after)))
    have hread := readMembers_eq hvalue hrest [] distinct after fuel (by omega)
    simp only [prettyChars, List.cons_append, List.append_assoc]
    rw [readValue_object_cons hlevels hstart, hread]
    simp

theorem readsBack_string (text : String) : (string text).ReadsBack levels level := by
  intro fuel after hfuel
  obtain ⟨fuel, rfl⟩ : ∃ n, fuel = n + 1 :=
    Nat.exists_eq_add_one_of_ne_zero (by simp [prettyChars, quoteChars] at hfuel; omega)
  rw [prettyChars, quoteChars, List.cons_append, List.append_assoc, readValue_quote]
  simp [readString_quoteChars]

/-- **A value is read from the front of its text, and nothing else is.** -/
theorem Readable.readsBack {value : Json} (h : value.Readable) (hdepth : value.depth < levels) :
    value.ReadsBack levels level := by
  induction h generalizing levels level with
  | null =>
    intro fuel after hfuel
    obtain ⟨fuel, rfl⟩ : ∃ n, fuel = n + 1 :=
      Nat.exists_eq_add_one_of_ne_zero (by simp [prettyChars] at hfuel; omega)
    simp [prettyChars, readValue, skipSpace, readName]
  | bool value =>
    intro fuel after hfuel
    obtain ⟨fuel, rfl⟩ : ∃ n, fuel = n + 1 :=
      Nat.exists_eq_add_one_of_ne_zero (by cases value <;> simp [prettyChars] at hfuel <;> omega)
    cases value <;> simp [prettyChars, readValue, skipSpace, readName]
  | string text => exact readsBack_string text
  | @array items hreadable ih =>
    rw [depth] at hdepth
    refine readsBack_array (by omega) fun item hitem => ?_
    have hle := depth_le_of_mem hitem
    exact ⟨hreadable item hitem, ih item hitem (by omega)⟩
  | @object members hkeys _ ih =>
    rw [depth] at hdepth
    refine readsBack_object (by omega) hkeys fun member hmember => ?_
    have hle := depth_le_of_mem_members hmember
    exact ih member hmember (by omega)

/-- **The text of a value is read as that value, whatever white space follows it.** -/
theorem Readable.parse_pretty {value : Json} (h : value.Readable)
    (hdepth : value.depth < nestingLevels) {space : String} (hspace : skipSpace space.toList = []) :
    parse (value.pretty ++ space) = .ok value := by
  have hread : value.ReadsBack nestingLevels 0 := h.readsBack hdepth
  have htext : (value.pretty ++ space).toList = prettyChars 0 value ++ space.toList := by
    simp [pretty]
  rw [parse, htext, hread _ _ (by simp; omega)]
  simp [hspace, pure_eq_ok]

end Json

end CommandTree
