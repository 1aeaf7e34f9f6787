import CommandTree.Json.Failure
import CommandTree.Json.Numeral

/-!
# Positions and the bytes they designate

A position is a line and a column; an offset is a number of bytes.  The way back from a position to
an offset adds up the lengths of lines, so it has to find the same lines that were counted on the
way there, whatever follows the bytes that were consumed.

* `Position.CutInto` : bytes are some ended lines and an open one; `Position.exists_cutInto` : all
  bytes are.
* `Position.after_eq` : the position after such bytes; `Position.lines_append` : their ended lines
  are the first lines of every text that starts with them.
* `Position.offset?_after` : the position after some bytes designates the last one of them, or the
  one behind them if they end a line.
* `Json.length_bytes` : the bytes of a text are those of its characters.
-/

namespace CommandTree

namespace Position

variable {consumed last rest : List UInt8} {ended : List (List UInt8)}

/-! ### Ended lines and an open one -/

/-- Bytes are some ended lines, given without the line feeds, and the open line after them. -/
structure CutInto (consumed : List UInt8) (ended : List (List UInt8)) (last : List UInt8) :
    Prop where
  /-- The bytes are these lines. -/
  eq : consumed = ended.flatMap (· ++ [lineFeed]) ++ last
  /-- An ended line has no line feed before its end. -/
  ended_free : ∀ line ∈ ended, lineFeed ∉ line
  /-- The open line has no line feed. -/
  last_free : lineFeed ∉ last

theorem exists_cutInto (consumed : List UInt8) : ∃ ended last, CutInto consumed ended last := by
  induction consumed with
  | nil => exact ⟨[], [], rfl, nofun, nofun⟩
  | cons byte consumed ih =>
    obtain ⟨ended, last, rfl, hended, hlast⟩ := ih
    by_cases hbyte : byte = lineFeed
    · subst hbyte
      exact ⟨[] :: ended, last, by simp, List.forall_mem_cons.2 ⟨nofun, hended⟩, hlast⟩
    -- the byte stands in front of the first line, which may be the open one
    · cases ended with
      | nil => exact ⟨[], byte :: last, rfl, nofun, by simp [Ne.symm hbyte, hlast]⟩
      | cons first ended =>
        obtain ⟨hfirst, hended⟩ := List.forall_mem_cons.1 hended
        refine ⟨(byte :: first) :: ended, last, by simp, ?_, hlast⟩
        exact List.forall_mem_cons.2 ⟨by simp [Ne.symm hbyte, hfirst], hended⟩

/-- The line feeds are those that end a line. -/
theorem CutInto.count_eq (h : CutInto consumed ended last) :
    consumed.count lineFeed = ended.length := by
  obtain ⟨rfl, hended, hlast⟩ := h
  rw [List.count_append, List.count_eq_zero_of_not_mem hlast]
  induction ended with
  | nil => rfl
  | cons first ended ih =>
    obtain ⟨hfirst, hended⟩ := List.forall_mem_cons.1 hended
    have hline : (first ++ [lineFeed]).count lineFeed = 1 := by
      rw [List.count_append, List.count_eq_zero_of_not_mem hfirst, List.count_singleton_self]
    rw [List.flatMap_cons, List.count_append, hline, List.length_cons, ← ih hended]
    omega

/-- Behind the last line feed stands the open line. -/
theorem CutInto.takeWhile_reverse (h : CutInto consumed ended last) :
    consumed.reverse.takeWhile (· != lineFeed) = last.reverse := by
  obtain ⟨rfl, -, hlast⟩ := h
  have hfree : ∀ byte ∈ last.reverse, (byte != lineFeed) = true := by
    intro byte hbyte
    rw [bne_iff_ne]
    rintro rfl
    exact hlast (List.mem_reverse.1 hbyte)
  rw [List.reverse_append, List.takeWhile_append_of_pos hfree]
  rcases List.eq_nil_or_concat ended with rfl | ⟨before, line, rfl⟩
  · simp
  · simp

theorem CutInto.after_eq (h : CutInto consumed ended last) :
    after consumed = ⟨ended.length + 1, last.length⟩ := by
  rw [after, h.count_eq, h.takeWhile_reverse, List.length_reverse]

/-! ### The lines of a text -/

/-- A line ends at its line feed. -/
theorem lines_line {line : List UInt8} (h : lineFeed ∉ line) :
    lines (line ++ lineFeed :: rest) = (line ++ [lineFeed]) :: lines rest := by
  induction line with
  | nil => rw [List.nil_append, lines, if_pos rfl, List.nil_append]
  | cons byte line ih =>
    obtain ⟨hbyte, hline⟩ := not_or.1 (mt List.mem_cons.2 h)
    rw [List.cons_append, lines, if_neg (Ne.symm hbyte), ih hline, List.cons_append]

/-- The ended lines of what a text starts with are its first lines. -/
theorem CutInto.lines_append (h : CutInto consumed ended last) (rest : List UInt8) :
    lines (consumed ++ rest) = ended.map (· ++ [lineFeed]) ++ lines (last ++ rest) := by
  obtain ⟨rfl, hended, -⟩ := h
  induction ended with
  | nil => rfl
  | cons first ended ih =>
    obtain ⟨hfirst, hended⟩ := List.forall_mem_cons.1 hended
    have hstart : (first :: ended).flatMap (· ++ [lineFeed]) ++ last ++ rest =
        first ++ lineFeed :: (ended.flatMap (· ++ [lineFeed]) ++ last ++ rest) := by
      simp
    rw [hstart, lines_line hfirst, ih hended, List.map_cons, List.cons_append]

/-- The length of lines is that of their bytes. -/
theorem foldr_length (lines : List (List UInt8)) :
    lines.foldr (fun line count => line.length + count) 0 = lines.flatten.length := by
  induction lines with
  | nil => rfl
  | cons line lines ih => rw [List.foldr_cons, ih, List.flatten_cons, List.length_append]

/-! ### The way back -/

/-- **The position after some bytes designates the last one of them**, or the one behind them if
they end a line. -/
theorem offset?_after (consumed rest : List UInt8) :
    (after consumed).offset? (consumed ++ rest) =
      some (if (after consumed).column = 0 then consumed.length else consumed.length - 1) := by
  obtain ⟨ended, last, h⟩ := exists_cutInto consumed
  have hstart : ((lines (consumed ++ rest)).take ended.length).foldr
      (fun line count => line.length + count) 0 = consumed.length - last.length := by
    rw [h.lines_append, List.take_left' (by simp), foldr_length, ← List.flatMap_def, h.eq,
      List.length_append, Nat.add_sub_cancel]
  have hlast : last.length ≤ consumed.length := by
    rw [h.eq, List.length_append]
    exact Nat.le_add_left _ _
  have hwithin : consumed.length - last.length + (last.length - 1) ≤
      consumed.length + rest.length := by omega
  rw [h.after_eq, offset?, if_neg (Nat.succ_ne_zero _)]
  simp only [Nat.add_sub_cancel, hstart, List.length_append, if_pos hwithin]
  congr 1
  split
  · omega
  · omega

theorem offset?_take (text : List UInt8) {k : Nat} (h : k ≤ text.length) :
    (after (text.take k)).offset? text =
      some (if (after (text.take k)).column = 0 then k else k - 1) := by
  have hback := offset?_after (text.take k) (text.drop k)
  rwa [List.take_append_drop, List.length_take_of_le h] at hback

/-! ### The bytes of a text -/

theorem length_toList_loop (bytes : ByteArray) (i : Nat) (read : List UInt8) :
    (ByteArray.toList.loop bytes i read).length = read.length + (bytes.size - i) := by
  fun_induction ByteArray.toList.loop bytes i read with
  | case1 i read h ih =>
    rw [ih, List.length_cons]
    omega
  | case2 i read h =>
    rw [List.length_reverse]
    omega

end Position

namespace Json

theorem size_utf8Encode (chars : List Char) : chars.utf8Encode.size = byteCount chars := by
  induction chars with
  | nil => rfl
  | cons c chars ih =>
    have hchar : [c].utf8Encode.size = c.utf8Size := by simp [List.utf8Encode_singleton]
    rw [List.utf8Encode_cons, ByteArray.size_append, hchar, ih]
    rfl

/-- The bytes of a text are those of its characters. -/
theorem length_bytes (text : String) : (Position.bytes text).length = byteCount text.toList := by
  rw [Position.bytes, ByteArray.toList, Position.length_toList_loop, List.length_nil, Nat.zero_add,
    Nat.sub_zero, String.toUTF8_eq_toByteArray, ← String.utf8Encode_toList, size_utf8Encode]

end Json

end CommandTree
