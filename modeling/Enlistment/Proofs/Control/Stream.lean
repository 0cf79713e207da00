import Enlistment.Proofs.Control.Framing

/-!
A stream piece by piece. What was read from the beginning of a stream stays so when more bytes come,
and a stream falls apart into its lines, up to the last line feed, and what comes behind that, which
a reader waits with until the stream ends.
-/

namespace Enlistment.Control

variable {bytes more : ByteArray} {position stop : Nat}

theorem get!_append_left {index : Nat} (inside : index < bytes.size) (more : ByteArray) :
    (bytes ++ more).get! index = bytes.get! index := by
  have bound : index < (bytes ++ more).size := by
    rw [ByteArray.size_append]
    omega
  rw [get!_of_inside bound, get!_of_inside inside, ByteArray.getElem_append_left inside]

theorem extract_append_left (ordered : stop ≤ bytes.size) (more : ByteArray) (position : Nat) :
    (bytes ++ more).extract position stop = bytes.extract position stop := by
  have none : more.extract (position - bytes.size) (stop - bytes.size) = ByteArray.empty :=
    ByteArray.extract_eq_empty_iff.mpr (by omega)
  rw [ByteArray.extract_append, none, ByteArray.append_empty]

theorem lineEnd_le (bytes : ByteArray) {position stop : Nat}
    (found : lineEnd bytes position stop < stop) :
    position ≤ lineEnd bytes position stop := by
  by_cases inside : position ≤ stop
  · exact (lineEnd_bounds bytes inside).1
  · rw [lineEnd, if_neg (by omega)] at found
    omega

theorem get!_lineEnd (found : lineEnd bytes position stop < stop) :
    bytes.get! (lineEnd bytes position stop) = lineFeed := by
  fun_induction lineEnd bytes position stop with
  | case1 position below here => simpa using here
  | case2 position below different ih => exact ih found
  | case3 position outside => exact absurd found (Nat.lt_irrefl _)

theorem get!_ne_of_before_lineEnd {index : Nat} (behind : position ≤ index)
    (before : index < lineEnd bytes position stop) : bytes.get! index ≠ lineFeed := by
  fun_induction lineEnd bytes position stop with
  | case1 position below here => omega
  | case2 position below different ih =>
      by_cases same : index = position
      · rw [same]
        simpa using different
      · exact ih (by omega) before
  | case3 position outside => omega

theorem lineEnd_of_plain (inside : position ≤ stop)
    (plain : ∀ index, position ≤ index → index < stop → bytes.get! index ≠ lineFeed) :
    lineEnd bytes position stop = stop := by
  rw [lineEnd_skip inside (Nat.le_refl _) plain, lineEnd, if_neg (Nat.lt_irrefl _)]

theorem lineEnd_eq {target : Nat} (behind : position ≤ target) (below : target < stop)
    (plain : ∀ index, position ≤ index → index < target → bytes.get! index ≠ lineFeed)
    (final : bytes.get! target = lineFeed) : lineEnd bytes position stop = target := by
  rw [lineEnd_skip behind (Nat.le_of_lt below) plain, lineEnd, if_pos below, final,
    if_pos (beq_self_eq_true _)]

theorem decodeLine_ne_waiting (line : ByteArray) (next : Nat) :
    decodeLine line next ≠ .waiting := by
  unfold decodeLine
  split <;> simp

theorem readLine_append (isClosed : Bool) (more : ByteArray)
    (done : readLine false bytes position ≠ .waiting) :
    readLine isClosed (bytes ++ more) position = readLine false bytes position := by
  have size : (bytes ++ more).size = bytes.size + more.size := ByteArray.size_append
  unfold readLine readLineLimited at done ⊢
  dsimp only at done ⊢
  rw [size]
  generalize found : lineEnd bytes position (min bytes.size (position + maxMessageBytes + 1)) =
    target at done ⊢
  by_cases newline : target < min bytes.size (position + maxMessageBytes + 1)
  · have behind : position ≤ target := by
      rw [← found] at newline ⊢
      exact lineEnd_le bytes newline
    have same : lineEnd (bytes ++ more) position
        (min (bytes.size + more.size) (position + maxMessageBytes + 1)) = target := by
      refine lineEnd_eq behind (by omega) ?_ ?_
      · intro index lower upper
        rw [get!_append_left (by omega)]
        exact get!_ne_of_before_lineEnd lower (found ▸ upper)
      · rw [get!_append_left (by omega), ← found]
        exact get!_lineEnd (found ▸ newline)
    rw [same, if_pos newline, if_pos (by omega), extract_append_left (by omega)]
  · rw [if_neg newline] at done
    by_cases tooLong : maxMessageBytes < min bytes.size (position + maxMessageBytes + 1) - position
    · have stop : min bytes.size (position + maxMessageBytes + 1) =
          position + maxMessageBytes + 1 := by omega
      have none : lineEnd (bytes ++ more) position (position + maxMessageBytes + 1) =
          position + maxMessageBytes + 1 := by
        refine lineEnd_of_plain (by omega) ?_
        intro index lower upper
        rw [get!_append_left (by omega)]
        rw [← stop] at upper
        exact get!_ne_of_before_lineEnd lower (Nat.lt_of_lt_of_le upper (by rw [found]; omega))
      rw [show min (bytes.size + more.size) (position + maxMessageBytes + 1) =
        position + maxMessageBytes + 1 by omega, none, if_neg (Nat.lt_irrefl _), if_pos (by omega),
        if_neg newline, if_pos tooLong, stop]
    · rw [if_neg tooLong] at done
      exact absurd rfl done

def Unterminated (bytes : ByteArray) : Prop :=
  ∀ index, index < bytes.size → bytes.get! index ≠ lineFeed

def EndsInLine (bytes : ByteArray) : Prop :=
  bytes.size = 0 ∨ bytes.get! (bytes.size - 1) = lineFeed

/-- A reader that waits behind whole lines has read all of them. -/
theorem EndsInLine.position_eq (whole : EndsInLine bytes) (inside : position ≤ bytes.size)
    (waiting : readLine false bytes position = .waiting) : position = bytes.size := by
  refine Classical.byContradiction fun different => ?_
  have final : bytes.get! (bytes.size - 1) = lineFeed := by
    rcases whole with empty | final
    · omega
    · exact final
  unfold readLine readLineLimited at waiting
  dsimp only at waiting
  split at waiting
  · exact decodeLine_ne_waiting _ _ waiting
  · rename_i none
    split at waiting
    · exact absurd waiting (by simp)
    · have last : bytes.size - 1 <
          lineEnd bytes position (min bytes.size (position + maxMessageBytes + 1)) := by
        omega
      exact get!_ne_of_before_lineEnd (by omega) last final

/-- What a reader finds behind the last line: it waits for the end of the stream, and takes what is
there for a line then. -/
theorem readLine_of_unterminated {tail : ByteArray} (isClosed : Bool) (whole : ByteArray)
    (unterminated : Unterminated tail) :
    readLine isClosed (whole ++ tail) whole.size =
      if maxMessageBytes < tail.size then
        .failed .messageTooLarge (whole.size + maxMessageBytes + 1)
      else if !isClosed then .waiting
      else if tail.size = 0 then .ended
      else decodeLine tail (whole ++ tail).size := by
  have size : (whole ++ tail).size = whole.size + tail.size := ByteArray.size_append
  have none : ∀ stop, whole.size ≤ stop → stop ≤ (whole ++ tail).size →
      lineEnd (whole ++ tail) whole.size stop = stop := by
    intro stop lower upper
    refine lineEnd_of_plain lower ?_
    intro index behind before
    obtain ⟨offset, rfl⟩ := Nat.exists_eq_add_of_le behind
    have within : offset < tail.size := by omega
    rw [get!_append_right within, ← get!_of_inside within]
    exact unterminated offset within
  unfold readLine readLineLimited
  dsimp only
  rw [none _ (by omega) (by omega), if_neg (Nat.lt_irrefl _), size]
  by_cases tooLong : maxMessageBytes < tail.size
  · rw [if_pos (by omega), if_pos tooLong]
    congr 1
    omega
  · rw [if_neg (by omega), if_neg tooLong]
    split
    · rfl
    · by_cases empty : tail.size = 0
      · rw [if_pos (by omega), if_pos empty]
      · rw [if_neg (by omega), if_neg empty,
          show min (whole.size + tail.size) (whole.size + maxMessageBytes + 1) =
            whole.size + tail.size by omega,
          ByteArray.extract_append_eq_right rfl rfl]

theorem unterminated_toUTF8 {line : String} (noLineFeed : '\n' ∉ line.toList) :
    Unterminated line.toUTF8 := by
  intro index inside found
  rw [get!_of_inside inside] at found
  exact noLineFeed (mem_toList_of_getElem_toUTF8 inside (by decide) (by rw [found]; rfl))

/-- A line that is too long is refused, whether or not its end has come. -/
theorem readLine_of_oversized {line : String} (isClosed : Bool) (before rest : ByteArray)
    (noLineFeed : '\n' ∉ line.toList) (tooLong : maxMessageBytes < line.utf8ByteSize) :
    readLine isClosed (before ++ (line.push '\n').toUTF8 ++ rest) before.size =
      .failed .messageTooLarge (before.size + maxMessageBytes + 1) := by
  have read := readLine_of_unterminated false before (unterminated_toUTF8 noLineFeed)
  have size : maxMessageBytes < line.toUTF8.size := tooLong
  rw [if_pos size] at read
  rw [toUTF8_push_lineFeed, ByteArray.append_assoc, ByteArray.append_assoc,
    ← ByteArray.append_assoc, readLine_append isClosed _ (by rw [read]; simp), read]

theorem unterminated_empty : Unterminated ByteArray.empty := by
  intro index inside
  rw [ByteArray.size_empty] at inside
  omega

theorem readLine_of_ended (bytes : ByteArray) : readLine true bytes bytes.size = .ended := by
  have read := readLine_of_unterminated true bytes unterminated_empty
  rw [ByteArray.append_empty] at read
  exact read

def lastLineEnd (bytes : ByteArray) : Nat → Nat
  | 0 => 0
  | count + 1 => if bytes.get! count == lineFeed then count + 1 else lastLineEnd bytes count

theorem lastLineEnd_le (bytes : ByteArray) (count : Nat) : lastLineEnd bytes count ≤ count := by
  induction count with
  | zero => exact Nat.le_refl 0
  | succ count ih =>
      rw [lastLineEnd]
      split <;> omega

theorem get!_of_lastLineEnd {count : Nat} (some : 0 < lastLineEnd bytes count) :
    bytes.get! (lastLineEnd bytes count - 1) = lineFeed := by
  induction count with
  | zero => exact absurd some (Nat.lt_irrefl 0)
  | succ count ih =>
      rw [lastLineEnd] at some ⊢
      split at some
      · rename_i here
        rw [if_pos here]
        simpa using here
      · rename_i different
        rw [if_neg different]
        exact ih some

theorem get!_ne_of_lastLineEnd {count index : Nat} (behind : lastLineEnd bytes count ≤ index)
    (before : index < count) : bytes.get! index ≠ lineFeed := by
  induction count with
  | zero => omega
  | succ count ih =>
      rw [lastLineEnd] at behind
      split at behind
      · omega
      · rename_i different
        by_cases same : index = count
        · rw [same]
          simpa using different
        · exact ih behind (by omega)

theorem lastLineEnd_congr {left right : ByteArray} {count : Nat}
    (same : ∀ index, index < count → left.get! index = right.get! index) :
    lastLineEnd left count = lastLineEnd right count := by
  induction count with
  | zero => rfl
  | succ count ih =>
      rw [lastLineEnd, lastLineEnd, same count (by omega),
        ih fun index before => same index (by omega)]

theorem lastLineEnd_append (bytes : ByteArray) {count : Nat} (inside : count ≤ more.size) :
    lastLineEnd (bytes ++ more) (bytes.size + count) =
      if lastLineEnd more count = 0 then lastLineEnd bytes bytes.size
      else bytes.size + lastLineEnd more count := by
  induction count with
  | zero =>
      rw [Nat.add_zero, lastLineEnd, if_pos rfl]
      exact lastLineEnd_congr fun index before => get!_append_left before more
  | succ count ih =>
      have within : count < more.size := by omega
      have read : (bytes ++ more).get! (bytes.size + count) = more.get! count := by
        rw [get!_append_right within, get!_of_inside within]
      rw [← Nat.add_assoc, lastLineEnd, lastLineEnd, read]
      by_cases here : (more.get! count == lineFeed) = true
      · rw [if_pos here, if_pos here, if_neg (Nat.succ_ne_zero count), Nat.add_assoc]
      · rw [if_neg here, if_neg here]
        exact ih (by omega)

def wholeSize (bytes : ByteArray) : Nat :=
  lastLineEnd bytes bytes.size

theorem wholeSize_le (bytes : ByteArray) : wholeSize bytes ≤ bytes.size :=
  lastLineEnd_le bytes bytes.size

theorem wholeSize_append (bytes more : ByteArray) :
    wholeSize (bytes ++ more) =
      if wholeSize more = 0 then wholeSize bytes else bytes.size + wholeSize more := by
  rw [wholeSize, ByteArray.size_append]
  exact lastLineEnd_append bytes (Nat.le_refl _)

theorem unterminated_behind_whole (bytes : ByteArray) :
    Unterminated (bytes.extract (wholeSize bytes) bytes.size) := by
  intro index inside
  have size : (bytes.extract (wholeSize bytes) bytes.size).size = bytes.size - wholeSize bytes := by
    rw [ByteArray.size_extract, Nat.min_self]
  have within : wholeSize bytes + index < bytes.size := by omega
  rw [get!_of_inside inside, ByteArray.getElem_extract, ← get!_of_inside within]
  exact get!_ne_of_lastLineEnd (Nat.le_add_right _ _) within

@[simp]
theorem size_whole (bytes : ByteArray) :
    (bytes.extract 0 (wholeSize bytes)).size = wholeSize bytes := by
  have bound := wholeSize_le bytes
  rw [ByteArray.size_extract]
  omega

theorem endsInLine_whole (bytes : ByteArray) :
    EndsInLine (bytes.extract 0 (wholeSize bytes)) := by
  rw [EndsInLine, size_whole]
  by_cases none : wholeSize bytes = 0
  · exact .inl none
  have bound := wholeSize_le bytes
  have within : wholeSize bytes - 1 < (bytes.extract 0 (wholeSize bytes)).size := by
    rw [size_whole]
    omega
  have final : bytes.get! (wholeSize bytes - 1) = lineFeed :=
    get!_of_lastLineEnd (Nat.pos_of_ne_zero none)
  refine .inr ?_
  rw [get!_of_inside within, ByteArray.getElem_extract, ← get!_of_inside, Nat.zero_add]
  exact final

@[simp]
theorem extract_whole_append (bytes : ByteArray) :
    bytes.extract 0 (wholeSize bytes) ++ bytes.extract (wholeSize bytes) bytes.size = bytes := by
  have bound := wholeSize_le bytes
  rw [ByteArray.extract_append_extract, Nat.min_eq_left (Nat.zero_le _), Nat.max_eq_right bound]
  exact ByteArray.extract_zero_size

end Enlistment.Control
