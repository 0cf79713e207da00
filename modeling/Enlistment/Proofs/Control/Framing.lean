import Enlistment.Control.Framing

/-!
What is written on a stream as a line is read back as that line, but for a carriage return at its
end, and a message that was written on a line comes back from it.
-/

namespace Enlistment.Control

theorem toNat_eq_of_mem_utf8EncodeChar {character : Char} {byte : UInt8}
    (member : byte ∈ String.utf8EncodeChar character) (ascii : byte.toNat < 128) :
    character.toNat = byte.toNat := by
  have value : character.val.toNat = character.toNat := rfl
  unfold String.utf8EncodeChar at member
  dsimp only at member
  rw [value] at member
  split at member
  · rw [List.mem_singleton.mp member, UInt8.toNat_ofNat']
    omega
  -- every byte of a longer encoding has its highest bit set
  · exfalso
    split at member
    · simp only [List.mem_cons, List.not_mem_nil, or_false] at member
      rcases member with rfl | rfl <;> simp only [UInt8.toNat_ofNat'] at ascii <;> omega
    · split at member
      · simp only [List.mem_cons, List.not_mem_nil, or_false] at member
        rcases member with rfl | rfl | rfl <;> simp only [UInt8.toNat_ofNat'] at ascii <;> omega
      · simp only [List.mem_cons, List.not_mem_nil, or_false] at member
        rcases member with rfl | rfl | rfl | rfl <;>
          simp only [UInt8.toNat_ofNat'] at ascii <;> omega

theorem mem_toList_of_getElem_toUTF8 {text : String} {special : Char} {index : Nat}
    (inside : index < text.toUTF8.size) (ascii : special.toNat < 128)
    (found : (text.toUTF8[index]).toNat = special.toNat) : special ∈ text.toList := by
  have member : text.toUTF8[index] ∈ text.toList.flatMap String.utf8EncodeChar := by
    have encoded : text.toUTF8 = (text.toList.flatMap String.utf8EncodeChar).toByteArray := by
      conv => lhs; rw [← String.ofList_toList (s := text)]
      rfl
    simp only [encoded, List.getElem_toByteArray]
    exact List.getElem_mem _
  obtain ⟨character, listed, byte⟩ := List.mem_flatMap.mp member
  have same := toNat_eq_of_mem_utf8EncodeChar byte (by omega)
  have : character = special := Char.toNat_inj.mp (same.trans found)
  rwa [← this]

theorem lineEnd_skip {bytes : ByteArray} {position target stop : Nat} (ordered : position ≤ target)
    (below : target ≤ stop)
    (plain : ∀ index, position ≤ index → index < target → bytes.get! index ≠ lineFeed) :
    lineEnd bytes position stop = lineEnd bytes target stop := by
  obtain ⟨distance, rfl⟩ := Nat.exists_eq_add_of_le ordered
  induction distance generalizing position with
  | zero => rfl
  | succ distance ih =>
      have here : (bytes.get! position == lineFeed) = false :=
        beq_false_of_ne (plain position (Nat.le_refl _) (by omega))
      have rest : lineEnd bytes (position + 1) stop =
          lineEnd bytes (position + 1 + distance) stop :=
        ih (by omega) (by omega) (fun index lower upper => plain index (by omega) (by omega))
      rw [lineEnd, if_pos (by omega), here, rest]
      simp only [Bool.false_eq_true, if_false]
      congr 1
      omega

theorem get!_of_inside {bytes : ByteArray} {index : Nat} (inside : index < bytes.size) :
    bytes.get! index = bytes[index] :=
  getElem!_pos bytes.data index inside

theorem get!_append_right {before after : ByteArray} {index : Nat} (inside : index < after.size) :
    (before ++ after).get! (before.size + index) = after[index] := by
  have bound : before.size + index < (before ++ after).size := by
    rw [ByteArray.size_append]
    omega
  rw [get!_of_inside bound, ByteArray.getElem_append_right (by omega)]
  congr 1
  omega

theorem toUTF8_push_lineFeed (line : String) :
    (line.push '\n').toUTF8 = line.toUTF8 ++ [lineFeed].toByteArray :=
  String.toByteArray_push

theorem lineEnd_of_framed {line : String} (before : ByteArray)
    (noLineFeed : '\n' ∉ line.toList) :
    lineEnd (before ++ line.toUTF8 ++ [lineFeed].toByteArray) before.size
      (before.size + line.toUTF8.size + 1) = before.size + line.toUTF8.size := by
  have passed : ∀ index, before.size ≤ index → index < before.size + line.toUTF8.size →
      (before ++ line.toUTF8 ++ [lineFeed].toByteArray).get! index ≠ lineFeed := by
    intro index lower upper found
    obtain ⟨offset, rfl⟩ := Nat.exists_eq_add_of_le lower
    have inside : offset < line.toUTF8.size := by omega
    have within : offset < (line.toUTF8 ++ [lineFeed].toByteArray).size := by
      rw [ByteArray.size_append]
      omega
    rw [ByteArray.append_assoc, get!_append_right within,
      ByteArray.getElem_append_left inside] at found
    exact noLineFeed (mem_toList_of_getElem_toUTF8 inside (by decide) (by rw [found]; rfl))
  have final : (before ++ line.toUTF8 ++ [lineFeed].toByteArray).get!
      (before.size + line.toUTF8.size) = lineFeed := by
    have read : (before ++ line.toUTF8 ++ [lineFeed].toByteArray).get!
        ((before ++ line.toUTF8).size + 0) = lineFeed := get!_append_right (by decide)
    rw [ByteArray.size_append, Nat.add_zero] at read
    exact read
  rw [lineEnd_skip (Nat.le_add_right _ _) (Nat.le_succ _) passed, lineEnd,
    if_pos (Nat.lt_succ_self _), final, if_pos (beq_self_eq_true _)]

/-- A line is read as this text: one carriage return at its end may have been dropped. -/
def ReadAs (line text : String) : Prop :=
  text = line ∨ line = text.push '\r'

theorem ReadAs.eq_of_plain {line text : String} (readAs : ReadAs line text)
    (plain : '\r' ∉ line.toList) : text = line := by
  rcases readAs with same | rfl
  · exact same
  · exact absurd (by simp) plain

/-- A byte below 128 at the end of a text is its last character. -/
theorem last_of_push {text : String} {last : Char} {special : UInt8}
    (ascii : special.toNat < 128)
    (final : (text.push last).toUTF8.get! ((text.push last).toUTF8.size - 1) = special) :
    last.toNat = special.toNat := by
  have encoded : (text.push last).toUTF8 =
      text.toUTF8 ++ (String.utf8EncodeChar last).toByteArray := by
    rw [← List.utf8Encode_singleton]
    exact String.toByteArray_push
  have size : (String.utf8EncodeChar last).toByteArray.size =
      (String.utf8EncodeChar last).length := List.size_toByteArray
  have some : 0 < (String.utf8EncodeChar last).length :=
    List.length_pos_iff.mpr String.utf8EncodeChar_ne_nil
  have inside : (String.utf8EncodeChar last).length - 1 <
      (String.utf8EncodeChar last).toByteArray.size := by omega
  have position : (text.push last).toUTF8.size - 1 =
      text.toUTF8.size + ((String.utf8EncodeChar last).length - 1) := by
    rw [encoded, ByteArray.size_append, size]
    omega
  rw [position, encoded, get!_append_right inside, List.getElem_toByteArray] at final
  rw [← final] at ascii ⊢
  exact toNat_eq_of_mem_utf8EncodeChar (List.getElem_mem _) ascii

theorem dropCarriageReturn_toUTF8 (line : String) :
    ∃ text, dropCarriageReturn line.toUTF8 = text.toUTF8 ∧ ReadAs line text := by
  unfold dropCarriageReturn
  split
  · rename_i found
    rw [Bool.and_eq_true, decide_eq_true_eq, beq_iff_eq] at found
    rcases List.eq_nil_or_concat line.toList with none | ⟨init, last, characters⟩
    · rw [String.toList_eq_nil_iff.mp none] at found
      exact absurd found.1 (by decide)
    have split : line = (String.ofList init).push last := by
      rw [← String.toList_inj, characters, String.toList_push, String.toList_ofList,
        List.concat_eq_append]
    subst split
    have code : last.toNat = carriageReturn.toNat := last_of_push (by decide) found.2
    have final : last = '\r' := Char.toNat_inj.mp code
    subst final
    have encoded : ((String.ofList init).push '\r').toUTF8 =
        (String.ofList init).toUTF8 ++ [carriageReturn].toByteArray := String.toByteArray_push
    refine ⟨String.ofList init, ?_, .inr rfl⟩
    rw [encoded, ByteArray.size_append]
    exact ByteArray.extract_append_eq_left (Nat.add_sub_cancel _ 1)
  · exact ⟨line, rfl, .inl rfl⟩

@[simp]
theorem fromUTF8?_toUTF8 (line : String) : String.fromUTF8? line.toUTF8 = some line :=
  dif_pos line.isValidUTF8

structure Sendable (line : String) : Prop where
  noLineFeed : '\n' ∉ line.toList
  fits : line.utf8ByteSize ≤ maxMessageBytes

theorem writeLine_of_sendable {line : String} (sendable : Sendable line) :
    writeLine line = .ok (line.push '\n') := by
  have absent : line.toList.contains '\n' = false := by
    rw [List.contains_eq_mem, decide_eq_false sendable.noLineFeed]
  rw [writeLine, absent]
  rfl

theorem decodeLine_toUTF8 (line : String) (next : Nat) :
    ∃ text, decodeLine line.toUTF8 next = .line ⟨text, next⟩ ∧ ReadAs line text := by
  obtain ⟨text, dropped, readAs⟩ := dropCarriageReturn_toUTF8 line
  refine ⟨text, ?_, readAs⟩
  rw [decodeLine, dropped, fromUTF8?_toUTF8]

/-- A line that was written on a stream is read from it, and the stream is then used up. -/
theorem readLine_of_framed {line : String} (isClosed : Bool) (before : ByteArray)
    (sendable : Sendable line) :
    ∃ text, readLine isClosed (before ++ (line.push '\n').toUTF8) before.size =
      .line ⟨text, (before ++ (line.push '\n').toUTF8).size⟩ ∧ ReadAs line text := by
  rw [toUTF8_push_lineFeed, ← ByteArray.append_assoc]
  have fits : line.toUTF8.size ≤ maxMessageBytes := sendable.fits
  have total : (before ++ line.toUTF8 ++ [lineFeed].toByteArray).size =
      before.size + line.toUTF8.size + 1 := by
    rw [ByteArray.size_append, ByteArray.size_append]
    rfl
  have stop : min (before ++ line.toUTF8 ++ [lineFeed].toByteArray).size
      (before.size + maxMessageBytes + 1) = before.size + line.toUTF8.size + 1 := by
    omega
  have content : (before ++ line.toUTF8 ++ [lineFeed].toByteArray).extract before.size
      (before.size + line.toUTF8.size) = line.toUTF8 := by
    have behind := ByteArray.extract_append_size_add (a := before)
      (b := line.toUTF8 ++ [lineFeed].toByteArray) (i := 0) (j := line.toUTF8.size)
    rw [ByteArray.append_assoc, ← Nat.add_zero before.size, Nat.add_assoc, Nat.zero_add, behind]
    exact ByteArray.extract_append_eq_left rfl
  unfold readLine readLineLimited
  dsimp only
  rw [stop, lineEnd_of_framed before sendable.noLineFeed, if_pos (Nat.lt_succ_self _), content,
    total]
  exact decodeLine_toUTF8 line _

theorem readLine_of_used (bytes : ByteArray) :
    readLine false bytes bytes.size = .waiting := by
  have stop : min bytes.size (bytes.size + maxMessageBytes + 1) = bytes.size := by omega
  unfold readLine readLineLimited
  dsimp only
  rw [stop, lineEnd, if_neg (Nat.lt_irrefl _), if_neg (Nat.lt_irrefl _), if_neg (by omega)]
  rfl

namespace Message

theorem trimLineEnd_append {mark : Char} (plain : isLineEnd mark = false)
    (header body : List Char) :
    trimLineEnd (header ++ mark :: body) = header ++ mark :: trimLineEnd body := by
  have split : (header ++ mark :: body).reverse = body.reverse ++ mark :: header.reverse := by
    simp
  have kept : (mark :: header.reverse).dropWhile isLineEnd = mark :: header.reverse :=
    List.dropWhile_cons_of_neg (by simp [plain])
  unfold trimLineEnd
  rw [split, List.dropWhile_append]
  split
  · rename_i empty
    rw [kept, List.isEmpty_iff.mp empty]
    simp
  · simp

theorem trimLineEnd_of_last {line : List Char}
    (last : ∀ character, line.getLast? = some character → isLineEnd character = false) :
    trimLineEnd line = line := by
  rcases List.eq_nil_or_concat line with rfl | ⟨init, final, rfl⟩
  · rfl
  · rw [List.concat_eq_append] at last ⊢
    exact trimLineEnd_append (last final (by simp)) init []

theorem trimLineEnd_of_plain {line : List Char} (noLineFeed : '\n' ∉ line)
    (noCarriageReturn : '\r' ∉ line) : trimLineEnd line = line := by
  refine trimLineEnd_of_last fun character last => ?_
  have listed : character ∈ line := List.mem_of_getLast? last
  have notLineFeed : character ≠ '\n' := ne_of_mem_of_not_mem listed noLineFeed
  have notCarriageReturn : character ≠ '\r' := ne_of_mem_of_not_mem listed noCarriageReturn
  simp [isLineEnd, notLineFeed, notCarriageReturn]

/-- The end of a line does not belong to the message, so it does not matter if it was read. -/
theorem fromLine_of_readAs {line text : String} (readAs : ReadAs line text) :
    fromLine text = fromLine line := by
  rcases readAs with rfl | rfl
  · rfl
  · rw [fromLine, fromLine, String.toList_push, trimLineEnd, trimLineEnd, List.reverse_append]
    rfl

def trimmed (body : String) : String :=
  String.ofList (trimLineEnd body.toList)

theorem trimmed_of_plain {body : String} (noLineFeed : '\n' ∉ body.toList)
    (noCarriageReturn : '\r' ∉ body.toList) : trimmed body = body := by
  rw [trimmed, trimLineEnd_of_plain noLineFeed noCarriageReturn, String.ofList_toList]

theorem ne_bar_of_absent {header : List Char} (noBar : '|' ∉ header) :
    ∀ character ∈ header, (character != '|') = true := by
  intro character listed
  rw [bne_iff_ne]
  exact ne_of_mem_of_not_mem listed noBar

theorem ofCharacters_of_body {header : List Char} (body : List Char) (noBar : '|' ∉ header) :
    ofCharacters (header ++ '|' :: body) =
      ⟨String.ofList header, if body = [] then none else some (String.ofList body)⟩ := by
  have plain := ne_bar_of_absent noBar
  have taken : (header ++ '|' :: body).takeWhile (· != '|') = header := by
    rw [List.takeWhile_append_of_pos plain]
    exact List.append_nil header
  have dropped : (header ++ '|' :: body).dropWhile (· != '|') = '|' :: body := by
    rw [List.dropWhile_append_of_pos plain]
    rfl
  unfold ofCharacters
  dsimp only
  rw [taken, dropped]
  cases body with
  | nil => rfl
  | cons first rest => rfl

@[simp]
theorem toList_toLine (header body : String) :
    (toLine ⟨header, some body⟩).toList = header.toList ++ '|' :: body.toList := by
  rw [toLine, String.toList_append, String.toList_append, List.append_assoc]
  rfl

/-- A message on one line comes back, but for line ends behind its body and a body that is
empty. -/
theorem fromLine_toLine {header : String} (noBar : '|' ∉ header.toList) (body : String) :
    fromLine (toLine ⟨header, some body⟩) =
      ⟨header, if trimmed body = "" then none else some (trimmed body)⟩ := by
  have empty : trimmed body = "" ↔ trimLineEnd body.toList = [] := by
    rw [trimmed, ← String.toList_eq_nil_iff, String.toList_ofList]
  rw [fromLine, toList_toLine, trimLineEnd_append (by decide), ofCharacters_of_body _ noBar,
    String.ofList_toList]
  simp only [empty]
  rfl

end Message

end Enlistment.Control
