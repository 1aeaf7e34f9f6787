import CommandTree.Click.Text
import CommandTree.Proofs.Identifier.Unique
import Std.Data.String.ToInt

/-!
# Cutting a text into its pieces

A declaration is written as one piece of text after the other.  That the pieces can be told apart
again needs no parser: it is enough that of two texts which are equal and each start with a piece,
the pieces are equal and so are the remaining texts.

* `Cuttable` : this holds for a way to write values, if what follows is a possible continuation.
* `Cuttable.flatMap` : values that are written one after the other can be cut off as well.
* `cuttable_word`, `cuttable_quote`, `cuttable_expression` : names, string literals and other
  expressions.
* `cuttable_keyword`, `cuttable_furtherKeywords` : the keyword arguments of a call.
-/

namespace CommandTree

namespace Click

/-! ### Pieces of text -/

section Pieces

variable {α : Type}

/-- Values with the property `ok` can be cut off the front of a text, if the rest of it has the
property `stop`: the text determines both the value and the rest. -/
def Cuttable (ok : α → Prop) (stop : List Char → Prop) (write : α → List Char) : Prop :=
  ∀ ⦃a b : α⦄, ok a → ok b → ∀ ⦃rest rest' : List Char⦄, stop rest → stop rest' →
    write a ++ rest = write b ++ rest' → a = b ∧ rest = rest'

variable {ok : α → Prop} {stop next : List Char → Prop} {write : α → List Char}

/-- Values one after the other can be cut off if each of them can, provided that the next value
does not look like the end of all. -/
theorem Cuttable.flatMap (h : Cuttable ok next write) (hstop : ∀ rest, stop rest → next rest)
    (hnext : ∀ a rest, ok a → next (write a ++ rest) ∧ ¬ stop (write a ++ rest)) :
    Cuttable (fun items : List α => ∀ a ∈ items, ok a) stop (·.flatMap write) := by
  have hrest : ∀ (items : List α) (rest : List Char), (∀ a ∈ items, ok a) → stop rest →
      next (items.flatMap write ++ rest) := by
    intro items rest hitems hend
    cases items with
    | nil => exact hstop rest hend
    | cons a items =>
      rw [List.flatMap_cons, List.append_assoc]
      exact (hnext a _ (hitems a List.mem_cons_self)).1
  intro items items' hitems hitems' rest rest' hend hend' heq
  induction items generalizing items' with
  | nil =>
    cases items' with
    | nil => exact ⟨rfl, by simpa using heq⟩
    | cons b items' =>
      simp only [List.flatMap_nil, List.nil_append, List.flatMap_cons, List.append_assoc] at heq
      exact absurd (heq ▸ hend) (hnext b _ (hitems' b List.mem_cons_self)).2
  | cons a items ih =>
    cases items' with
    | nil =>
      simp only [List.flatMap_nil, List.nil_append, List.flatMap_cons, List.append_assoc] at heq
      exact absurd (heq ▸ hend') (hnext a _ (hitems a List.mem_cons_self)).2
    | cons b items' =>
      rw [List.forall_mem_cons] at hitems hitems'
      simp only [List.flatMap_cons, List.append_assoc] at heq
      obtain ⟨rfl, hlater⟩ := h hitems.1 hitems'.1 (hrest items rest hitems.2 hend)
        (hrest items' rest' hitems'.2 hend') heq
      obtain ⟨rfl, rfl⟩ := ih hitems.2 hitems'.2 hlater
      exact ⟨rfl, rfl⟩

/-- A text does not go on with a character of some class. -/
def Ends (p : Char → Bool) (rest : List Char) : Prop :=
  ∀ c ∈ rest.head?, p c = false

theorem takeWhile_append_of_ends {p : Char → Bool} {word rest : List Char}
    (hword : ∀ c ∈ word, p c = true) (hend : Ends p rest) :
    (word ++ rest).takeWhile p = word := by
  rw [List.takeWhile_append_of_pos hword]
  cases rest with
  | nil => simp
  | cons c rest => simp [hend c rfl]

/-- A word can be cut off where its characters end. -/
theorem cuttable_word (p : Char → Bool) :
    Cuttable (fun word : List Char => ∀ c ∈ word, p c = true) (Ends p) id := by
  intro word word' hword hword' rest rest' hend hend' heq
  have hwords := congrArg (List.takeWhile p) heq
  simp only [id_eq] at heq hwords
  rw [takeWhile_append_of_ends hword hend, takeWhile_append_of_ends hword' hend'] at hwords
  subst hwords
  exact ⟨rfl, List.append_cancel_left heq⟩

end Pieces

/-! ### String literals -/

theorem cuttable_quotedChar : Cuttable (fun _ : Char => True) (fun _ => True) quotedChar := by
  intro a b _ _ rest rest' _ _ heq
  unfold quotedChar at heq
  split at heq <;> split at heq <;> grind

theorem quotedChar_append_ne (c : Char) (rest rest' : List Char) :
    quotedChar c ++ rest ≠ '"' :: rest' := by
  unfold quotedChar
  split <;> simp_all

/-- A string literal can be cut off whatever follows. -/
theorem cuttable_quote : Cuttable (fun _ : String => True) (fun _ => True)
    fun text => (quote text).toList := by
  have hchars : Cuttable (fun chars : List Char => ∀ c ∈ chars, True)
      (fun rest => ∃ rest', rest = '"' :: rest') (·.flatMap quotedChar) :=
    cuttable_quotedChar.flatMap (fun _ _ => trivial) fun c rest _ =>
      ⟨trivial, fun ⟨rest', h⟩ => quotedChar_append_ne c rest rest' h⟩
  intro text text' _ _ rest rest' _ _ heq
  simp only [quote, String.toList_ofList, List.cons_append, List.append_assoc, List.nil_append,
    List.cons.injEq, true_and] at heq
  obtain ⟨htext, hrest⟩ := hchars (fun _ _ => trivial) (fun _ _ => trivial) ⟨rest, rfl⟩
    ⟨rest', rfl⟩ heq
  exact ⟨String.toList_inj.1 htext, (List.cons.inj hrest).2⟩

/-! ### Other expressions -/

/-- Whether a character occurs in numbers. -/
def isNumberChar (c : Char) : Bool :=
  c.isDigit || c == '-'

theorem isNumberChar_of_mem_repr {value : Int} {c : Char} (h : c ∈ value.repr.toList) :
    isNumberChar c = true := by
  have hdigits : ∀ {n : Nat}, c ∈ n.repr.toList → c.isDigit = true := by
    intro n hn
    rw [Nat.repr, String.toList_ofList] at hn
    exact Nat.isDigit_of_mem_toDigits (by decide) (by decide) hn
  rw [Int.repr_eq_if] at h
  split at h
  · simp [isNumberChar, hdigits h]
  · rw [String.toList_append, List.mem_append] at h
    obtain h | h := h
    · obtain rfl : c = '-' := by simpa using h
      rfl
    · simp [isNumberChar, hdigits h]

theorem repr_ne_nil (value : Int) : value.repr.toList ≠ [] := by
  have hnat : ∀ n : Nat, n.repr.toList ≠ [] := by
    intro n
    rw [Nat.repr, String.toList_ofList]
    exact Nat.toDigits_ne_nil
  rw [Int.repr_eq_if]
  split
  · exact hnat _
  · simp

/-- A number starts with a character of numbers. -/
theorem exists_repr_eq_cons (value : Int) :
    ∃ c rest, value.repr.toList = c :: rest ∧ isNumberChar c = true := by
  cases hvalue : value.repr.toList with
  | nil => exact absurd hvalue (repr_ne_nil value)
  | cons c rest => exact ⟨c, rest, rfl, isNumberChar_of_mem_repr (hvalue ▸ List.mem_cons_self)⟩

/-- What follows an argument of a call: another one, or the closing parenthesis. -/
def EndsArgument (rest : List Char) : Prop :=
  rest.head? = some ',' ∨ rest.head? = some ')'

theorem EndsArgument.ends {rest : List Char} (h : EndsArgument rest) {p : Char → Bool}
    (hcomma : p ',' = false) (hparenthesis : p ')' = false) : Ends p rest := by
  intro c hc
  obtain h | h := h
  · obtain rfl : ',' = c := by simpa [h] using hc
    exact hcomma
  · obtain rfl : ')' = c := by simpa [h] using hc
    exact hparenthesis

theorem cuttable_repr :
    Cuttable (fun _ : Int => True) EndsArgument fun value => value.repr.toList := by
  intro a b _ _ rest rest' hend hend' heq
  obtain ⟨hrepr, hrest⟩ := cuttable_word isNumberChar (fun c => isNumberChar_of_mem_repr)
    (fun c => isNumberChar_of_mem_repr) (hend.ends rfl rfl) (hend'.ends rfl rfl) heq
  exact ⟨Int.repr_injective (String.toList_inj.1 hrepr), hrest⟩

/-- A number does not start with a character that is in no number. -/
theorem repr_append_ne {c : Char} (hc : isNumberChar c = false) (value : Int)
    (rest rest' : List Char) : value.repr.toList ++ rest ≠ c :: rest' := by
  intro heq
  obtain ⟨d, chars, hchars, hd⟩ := exists_repr_eq_cons value
  rw [hchars] at heq
  obtain rfl := (List.cons.inj heq).1
  rw [hd] at hc
  cases hc

/-- What is written as the value of a keyword argument. -/
inductive Expression where
  /-- A literal. -/
  | literal (value : Literal)
  /-- A type. -/
  | valueType (type : ValueType)
  deriving DecidableEq

namespace Expression

/-- The text of an expression. -/
def text : Expression → String
  | literal value => Click.literal value
  | valueType type => (valueType? type).getD ""

/-- The expressions that are always written in the same way. -/
def constants : List Expression :=
  [literal (.truth true), literal (.truth false), literal .absent, valueType .text,
    valueType .truth, valueType .integer]

/-- Every expression with a text is a string literal, a number or a constant. -/
theorem trichotomy {expression : Expression} (h : expression ≠ valueType .absent) :
    (∃ value, expression = literal (.text value)) ∨
      (∃ value, expression = literal (.integer value)) ∨ expression ∈ constants := by
  rcases expression with ⟨value | ⟨_ | _⟩ | value | _⟩ | ⟨_ | _ | _ | _⟩
  · exact .inl ⟨value, rfl⟩
  · exact .inr (.inr (by decide))
  · exact .inr (.inr (by decide))
  · exact .inr (.inl ⟨value, rfl⟩)
  all_goals first | exact .inr (.inr (by decide)) | exact absurd rfl h

/-- No constant starts another one. -/
theorem constants_prefixFree : ∀ a ∈ constants, ∀ b ∈ constants,
    a.text.toList <+: b.text.toList → a = b := by
  decide

/-- A constant starts with a character that starts neither a string literal nor a number. -/
theorem constants_head : ∀ a ∈ constants, ∃ c ∈ a.text.toList.head?,
    c ≠ '"' ∧ isNumberChar c = false := by
  have hfirst : ∀ a ∈ constants,
      (a.text.toList.head?.any fun c => c != '"' && !isNumberChar c) = true := by decide
  intro a ha
  obtain ⟨c, hc, hfits⟩ := (Option.any_eq_true ..).1 (hfirst a ha)
  simp only [Bool.and_eq_true, bne_iff_ne, Bool.not_eq_true'] at hfits
  exact ⟨c, hc, hfits⟩

theorem cuttable_constants : Cuttable (· ∈ constants) (fun _ => True) fun a => a.text.toList := by
  intro a b ha hb rest rest' _ _ heq
  have hequal : a = b := by
    obtain h | h := List.prefix_or_prefix_of_prefix (List.prefix_append _ rest)
      (heq ▸ List.prefix_append _ rest')
    · exact constants_prefixFree a ha b hb h
    · exact (constants_prefixFree b hb a ha h).symm
  subst hequal
  exact ⟨rfl, List.append_cancel_left heq⟩

theorem constant_append_ne {a : Expression} (ha : a ∈ constants) (rest : List Char) :
    (∀ rest', a.text.toList ++ rest ≠ '"' :: rest') ∧
      ∀ (value : Int) (rest' : List Char), a.text.toList ++ rest ≠ value.repr.toList ++ rest' := by
  obtain ⟨c, hc, hquote, hnumber⟩ := constants_head a ha
  obtain ⟨chars, hchars⟩ : ∃ chars, a.text.toList = c :: chars := by
    cases htext : a.text.toList with
    | nil => simp [htext] at hc
    | cons d chars =>
      obtain rfl : d = c := by simpa [htext] using hc
      exact ⟨chars, rfl⟩
  rw [hchars, List.cons_append]
  refine ⟨fun rest' h => hquote (List.cons.inj h).1, fun value rest' h => ?_⟩
  exact repr_append_ne hnumber value rest' _ h.symm

end Expression

/-- An expression can be cut off, as its first character tells what kind of expression it is. -/
theorem cuttable_expression :
    Cuttable (fun expression : Expression => expression ≠ .valueType .absent) EndsArgument
      fun expression => expression.text.toList := by
  intro a b ha hb rest rest' hend hend' heq
  have hquote : ∀ (value : String) (rest : List Char), ∃ rest',
      (Expression.literal (.text value)).text.toList ++ rest = '"' :: rest' := by
    intro value rest
    exact ⟨_, by simp only [Expression.text, literal, quote, String.toList_ofList]; rfl⟩
  have hnumber : ∀ (value : Int) (rest rest' : List Char),
      (Expression.literal (.integer value)).text.toList ++ rest ≠ '"' :: rest' :=
    fun value => repr_append_ne rfl value
  obtain ⟨value, rfl⟩ | ⟨value, rfl⟩ | ha := Expression.trichotomy ha
  · obtain ⟨chars, hchars⟩ := hquote value rest
    obtain ⟨value', rfl⟩ | ⟨value', rfl⟩ | hb := Expression.trichotomy hb
    · obtain ⟨rfl, hrest⟩ := cuttable_quote trivial trivial trivial trivial heq
      exact ⟨rfl, hrest⟩
    · exact absurd (heq.symm.trans hchars) (hnumber value' rest' _)
    · exact absurd (heq.symm.trans hchars) ((Expression.constant_append_ne hb rest').1 _)
  · obtain ⟨value', rfl⟩ | ⟨value', rfl⟩ | hb := Expression.trichotomy hb
    · obtain ⟨chars, hchars⟩ := hquote value' rest'
      exact absurd (heq.trans hchars) (hnumber value rest _)
    · obtain ⟨rfl, hrest⟩ := cuttable_repr trivial trivial hend hend' heq
      exact ⟨rfl, hrest⟩
    · exact absurd heq.symm ((Expression.constant_append_ne hb rest').2 value rest)
  · obtain ⟨value', rfl⟩ | ⟨value', rfl⟩ | hb := Expression.trichotomy hb
    · obtain ⟨chars, hchars⟩ := hquote value' rest'
      exact absurd (heq.trans hchars) ((Expression.constant_append_ne ha rest).1 _)
    · exact absurd heq ((Expression.constant_append_ne ha rest).2 value' rest')
    · exact Expression.cuttable_constants ha hb trivial trivial heq

/-! ### Keyword arguments -/

/-- Whether a text is a word of letters, digits and underscores. -/
def IsWord (text : String) : Prop :=
  text ≠ "" ∧ ∀ c ∈ text.toList, c.isAlphanum || c == '_'

instance (text : String) : Decidable (IsWord text) :=
  decidable_of_iff (text ≠ "" ∧ text.toList.all fun c => c.isAlphanum || c == '_')
    (and_congr_right' List.all_eq_true)

/-- A keyword argument after another argument. -/
def furtherKeyword (keyword : String × Expression) : List Char :=
  ',' :: ' ' :: (keyword.1.toList ++ '=' :: keyword.2.text.toList)

/-- Whether a keyword argument can be told apart from others. -/
def ClearKeyword (keyword : String × Expression) : Prop :=
  IsWord keyword.1 ∧ keyword.2 ≠ .valueType .absent

/-- A keyword argument without anything before it. -/
theorem cuttable_keyword : Cuttable ClearKeyword EndsArgument fun keyword =>
    keyword.1.toList ++ '=' :: keyword.2.text.toList := by
  rintro ⟨key, value⟩ ⟨key', value'⟩ ⟨hkey, hvalue⟩ ⟨hkey', hvalue'⟩ rest rest' hend hend' heq
  simp only [List.append_assoc, List.cons_append] at heq
  obtain ⟨hkeys, hrest⟩ := cuttable_word (fun c => c.isAlphanum || c == '_') hkey.2 hkey'.2
    (by intro c hc; obtain rfl : '=' = c := by simpa using hc
        rfl)
    (by intro c hc; obtain rfl : '=' = c := by simpa using hc
        rfl) heq
  obtain rfl := String.toList_inj.1 hkeys
  obtain ⟨rfl, rfl⟩ := cuttable_expression hvalue hvalue' hend hend' (List.cons.inj hrest).2
  exact ⟨rfl, rfl⟩

/-- The remaining keyword arguments of a call. -/
theorem cuttable_furtherKeywords :
    Cuttable (fun keywords : List (String × Expression) => ∀ keyword ∈ keywords,
      ClearKeyword keyword) (fun rest => rest.head? = some ')')
      fun keywords => keywords.flatMap furtherKeyword := by
  have hkeyword : Cuttable ClearKeyword EndsArgument furtherKeyword := by
    intro a b ha hb rest rest' hend hend' heq
    exact cuttable_keyword ha hb hend hend' (List.cons.inj (List.cons.inj heq).2).2
  exact hkeyword.flatMap (fun _ => .inr) fun keyword rest _ =>
    ⟨.inl rfl, by simp [furtherKeyword]⟩

end Click

end CommandTree
