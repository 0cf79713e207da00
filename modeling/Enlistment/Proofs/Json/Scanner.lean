import Enlistment.Json.Token
import Enlistment.Json.Writer

/-!
What is written on one line, as the scanner reads it. Every text becomes tokens that do not depend
on what stands around it, though a number or a word ends only where punctuation follows.
-/

namespace Enlistment.Json

section Text

def Spells (piece : Piece) (character : Char) : Prop :=
  piece = .character character ∨ piece = .unit character.toNat ∧ character.toNat < 0x20

theorem pieces_control {code : Nat} (control : code < 0x20) (rest : List Char) :
    pieces ('\\' :: 'u' :: (fourHexDigits code ++ rest)) =
      (pieces rest).map (Piece.unit code :: ·) := by
  have digits : ∀ code < 0x20,
      fourHexDigits code = ['0', '0', Nat.digitChar (code / 16), Nat.digitChar (code % 16)] ∧
      hexDigitValue (Nat.digitChar (code / 16)) = some (code / 16) ∧
      hexDigitValue (Nat.digitChar (code % 16)) = some (code % 16) := by
    decide
  have zero : hexDigitValue '0' = some 0 := by decide
  have value : ((0 * 16 + 0) * 16 + code / 16) * 16 + code % 16 = code := by omega
  obtain ⟨written, third, fourth⟩ := digits code control
  rw [written]
  simp only [List.cons_append, List.nil_append, pieces, zero, third, fourth]
  cases pieces rest with
  | none => rfl
  | some following => exact congrArg (fun code => some (Piece.unit code :: following)) value

theorem pieces_plain {character : Char} (backslash : character ≠ '\\')
    (printable : ¬character.toNat < 0x20) (rest : List Char) :
    pieces (character :: rest) = (pieces rest).map (Piece.character character :: ·) := by
  rw [pieces]
  · rw [if_neg (by simp [backslash, printable])]
    cases pieces rest <;> rfl
  · rintro _ _ _ _ _ rfl
    contradiction
  · rintro _ _ rfl
    contradiction

theorem pieces_short {escape character : Char} (different : escape ≠ 'u')
    (short : shortEscape escape = some character) (rest : List Char) :
    pieces ('\\' :: escape :: rest) = (pieces rest).map (Piece.character character :: ·) := by
  rw [pieces]
  · rw [short]
    cases pieces rest <;> rfl
  · rintro _ _ _ _ _ rfl
    contradiction

theorem pieces_escapeCharacter (character : Char) : ∃ piece, Spells piece character ∧
    ∀ rest, pieces (escapeCharacter character ++ rest) = (pieces rest).map (piece :: ·) := by
  unfold escapeCharacter
  split
  case h_8 quote backslash _ _ _ _ _ =>
    by_cases control : character.toNat < 0x20
    · rw [if_pos control]
      exact ⟨_, .inr ⟨rfl, control⟩, pieces_control control⟩
    · rw [if_neg control]
      exact ⟨_, .inl rfl, pieces_plain backslash control⟩
  all_goals exact ⟨_, .inl rfl, pieces_short (by decide) rfl⟩

/-- A code unit outside the surrogates is a character by itself. -/
theorem joinPieces_unit {code : Nat} (high : isHighSurrogate code = false)
    (low : isLowSurrogate code = false) (rest : List Piece) :
    joinPieces (.unit code :: rest) = (joinPieces rest).map (Char.ofNat code :: ·) := by
  cases rest with
  | nil =>
      simp only [joinPieces, high, low]
      rfl
  | cons next rest =>
      cases next with
      | character other =>
          simp only [joinPieces, high, low]
          cases joinPieces rest <;> rfl
      | unit other =>
          rw [joinPieces, high, low]
          cases joinPieces (.unit other :: rest) <;> rfl

theorem joinPieces_of_spells {piece : Piece} {character : Char} (spells : Spells piece character)
    (rest : List Piece) :
    joinPieces (piece :: rest) = (joinPieces rest).map (character :: ·) := by
  rcases spells with rfl | ⟨rfl, control⟩
  · rw [joinPieces]
    cases joinPieces rest <;> rfl
  · have high : isHighSurrogate character.toNat = false := by
      simp only [isHighSurrogate, Bool.and_eq_false_iff, decide_eq_false_iff_not]
      omega
    have low : isLowSurrogate character.toNat = false := by
      simp only [isLowSurrogate, Bool.and_eq_false_iff, decide_eq_false_iff_not]
      omega
    rw [joinPieces_unit high low, Char.ofNat_toNat]

theorem ofQuoted_escaped (text : List Char) :
    Token.ofQuoted (text.flatMap escapeCharacter) = some (.text (some (String.ofList text))) := by
  have read : ∃ parts, pieces (text.flatMap escapeCharacter) = some parts ∧
      joinPieces parts = some text := by
    induction text with
    | nil => exact ⟨[], by simp [pieces], by simp [joinPieces]⟩
    | cons character rest ih =>
        obtain ⟨parts, split, joined⟩ := ih
        obtain ⟨piece, spells, first⟩ := pieces_escapeCharacter character
        refine ⟨piece :: parts, ?_, ?_⟩
        · rw [List.flatMap_cons, first, split]
          rfl
        · rw [joinPieces_of_spells spells, joined]
          rfl
  obtain ⟨parts, split, joined⟩ := read
  rw [Token.ofQuoted, split, Option.map_some, joined]
  rfl

end Text

section Number

@[simp]
theorem naturalOfDigits_toDigits (value : Nat) :
    naturalOfDigits (Nat.toDigits 10 value) = value := by
  have read : Nat.ofDigitChars 10 (Nat.toDigits 10 value) 0 = value :=
    Nat.ofDigitChars_ten_toDigits
  rwa [Nat.ofDigitChars_eq_foldl] at read

theorem toDigits_ten_cases (value : Nat) :
    Nat.toDigits 10 value = ['0'] ∨
      ∃ first rest, Nat.toDigits 10 value = first :: rest ∧ first ≠ '0' := by
  induction value using Nat.strongRecOn with
  | ind value ih =>
      rw [Nat.toDigits_eq_if (by decide)]
      by_cases single : value < 10
      · rw [if_pos single]
        by_cases zero : value = 0
        · exact .inl (by rw [zero]; rfl)
        · exact .inr ⟨_, [], rfl, fun same => zero (Nat.digitChar_eq_zero.mp same)⟩
      · rw [if_neg single]
        rcases ih (value / 10) (by omega) with zero | ⟨first, rest, digits, nonzero⟩
        · have same := naturalOfDigits_toDigits (value / 10)
          have none : naturalOfDigits ['0'] = 0 := by decide
          rw [zero, none] at same
          omega
        · exact .inr ⟨first, rest ++ [Nat.digitChar (value % 10)], by rw [digits]; rfl, nonzero⟩

@[simp]
theorem all_isDigit_toDigits (value : Nat) : (Nat.toDigits 10 value).all Char.isDigit = true :=
  List.all_eq_true.mpr fun _ listed =>
    Nat.isDigit_of_mem_toDigits (by decide) (Nat.le_refl 10) listed

@[simp]
theorem isWholePart_toDigits (value : Nat) : isWholePart (Nat.toDigits 10 value) = true := by
  have digits := all_isDigit_toDigits value
  rcases toDigits_ten_cases value with zero | ⟨first, rest, written, nonzero⟩
  · rw [zero]
    rfl
  · rw [written] at digits ⊢
    rw [isWholePart]
    · rw [digits, bne_iff_ne.mpr nonzero]
      rfl
    · rintro rfl
      contradiction

theorem ofNumber_toDigits (value : Nat) :
    Token.ofNumber (Nat.toDigits 10 value) = some (.natural value) := by
  have digits := List.all_eq_true.mp (all_isDigit_toDigits value)
  have whole : (Nat.toDigits 10 value).takeWhile Char.isDigit = Nat.toDigits 10 value := by
    have taken : (Nat.toDigits 10 value ++ []).takeWhile Char.isDigit =
        Nat.toDigits 10 value ++ [].takeWhile Char.isDigit := List.takeWhile_append_of_pos digits
    rwa [List.takeWhile_nil, List.append_nil] at taken
  have rest : (Nat.toDigits 10 value).dropWhile Char.isDigit = [] := by
    have dropped : (Nat.toDigits 10 value ++ []).dropWhile Char.isDigit =
        [].dropWhile Char.isDigit := List.dropWhile_append_of_pos digits
    rwa [List.dropWhile_nil, List.append_nil] at dropped
  unfold Token.ofNumber
  dsimp only
  split
  · rename_i unsigned written
    have sign : '-' ∈ Nat.toDigits 10 value := by
      rw [written]
      exact List.mem_cons_self
    exact absurd (digits '-' sign) (by decide)
  · simp [whole, rest]

end Number

section Scanning

theorem scan_cons {scan next : Scan} {character : Char} {added : List Token}
    (step : scan.step character = some (added, next)) (rest : List Char) (tokens : List Token) :
    (character :: rest).foldlM Scan.feed (tokens, scan) =
      rest.foldlM Scan.feed (added.reverse ++ tokens, next) := by
  rw [List.foldlM_cons, Scan.feed, step]
  rfl

theorem scan_append {text : List Char} {before after : List Token × Scan}
    (scanned : text.foldlM Scan.feed before = some after) (rest : List Char) :
    (text ++ rest).foldlM Scan.feed before = rest.foldlM Scan.feed after := by
  rw [List.foldlM_append, scanned]
  rfl

/-- Whatever was read before it, a text is read as these tokens. -/
def Scans (text : List Char) (tokens : List Token) : Prop :=
  ∀ before, text.foldlM Scan.feed (before, .between) = some (tokens.reverse ++ before, .between)

/-- A text is read as these tokens once punctuation follows. -/
def ScansBefore (text : List Char) (tokens : List Token) : Prop :=
  ∀ mark token, Token.ofPunctuation mark = some token → Scans (text ++ [mark]) (tokens ++ [token])

theorem Scans.append {first second : List Char} {tokens more : List Token}
    (before : Scans first tokens) (after : Scans second more) :
    Scans (first ++ second) (tokens ++ more) := by
  intro read
  rw [scan_append (before read), after, List.reverse_append, List.append_assoc]

theorem not_of_punctuation {p : Char → Bool} {mark : Char} {token : Token}
    (none : ['\x7b', '\x7d', '[', ']', ':', ','].all (fun mark => !p mark) = true)
    (punctuation : Token.ofPunctuation mark = some token) : p mark = false := by
  have listed : mark ∈ ['\x7b', '\x7d', '[', ']', ':', ','] := by
    unfold Token.ofPunctuation at punctuation
    split at punctuation <;> first | contradiction | decide
  simpa using List.all_eq_true.mp none mark listed

theorem start_of_punctuation {mark : Char} {token : Token}
    (punctuation : Token.ofPunctuation mark = some token) :
    Scan.start mark = some ([token], .between) := by
  have visible : isBlank mark = false := not_of_punctuation (by decide) punctuation
  rw [Scan.start, visible, punctuation]
  rfl

theorem scans_punctuation {mark : Char} {token : Token}
    (punctuation : Token.ofPunctuation mark = some token) : Scans [mark] [token] := by
  intro before
  have step : Scan.between.step mark = some ([token], .between) := start_of_punctuation punctuation
  exact scan_cons step [] before

theorem Scans.before {text : List Char} {tokens : List Token} (scans : Scans text tokens) :
    ScansBefore text tokens :=
  fun _ _ punctuation => scans.append (scans_punctuation punctuation)

def isPlain (character : Char) : Bool :=
  character != '"' && character != '\\'

theorem scan_plain {text : List Char} (plain : text.all isPlain = true) (tokens : List Token)
    (collected : List Char) :
    text.foldlM Scan.feed (tokens, .quoted collected) =
      some (tokens, .quoted (text.reverse ++ collected)) := by
  induction text generalizing collected with
  | nil => rfl
  | cons character rest ih =>
      simp only [List.all_cons, isPlain, Bool.and_eq_true, bne_iff_ne] at plain
      obtain ⟨⟨quote, backslash⟩, plainRest⟩ := plain
      have step : (Scan.quoted collected).step character =
          some ([], .quoted (character :: collected)) := by
        rw [Scan.step, beq_false_of_ne quote, beq_false_of_ne backslash]
        rfl
      rw [scan_cons step, List.reverse_cons, List.append_assoc]
      exact ih plainRest _

theorem scan_escapeCharacter (character : Char) (tokens : List Token) (collected : List Char) :
    (escapeCharacter character).foldlM Scan.feed (tokens, .quoted collected) =
      some (tokens, .quoted ((escapeCharacter character).reverse ++ collected)) := by
  unfold escapeCharacter
  split
  -- Every other escape is two fixed characters.
  case h_8 quote backslash _ _ _ _ _ =>
    by_cases control : character.toNat < 0x20
    · have plain : ∀ code < 0x20, (fourHexDigits code).all isPlain = true := by decide
      have digits := scan_plain (plain character.toNat control) tokens ('u' :: '\\' :: collected)
      rw [if_pos control, List.reverse_cons, List.reverse_cons, List.append_assoc,
        List.append_assoc]
      exact digits
    · rw [if_neg control]
      refine scan_plain ?_ tokens collected
      simp only [List.all_cons, List.all_nil, isPlain, Bool.and_true, Bool.and_eq_true, bne_iff_ne]
      exact ⟨quote, backslash⟩
  all_goals rfl

theorem scans_quote (text : String) : Scans (quote text) [.text (some text)] := by
  have inside : ∀ (characters collected : List Char) (tokens : List Token),
      (characters.flatMap escapeCharacter).foldlM Scan.feed (tokens, .quoted collected) =
        some (tokens, .quoted ((characters.flatMap escapeCharacter).reverse ++ collected)) := by
    intro characters
    induction characters with
    | nil => exact fun _ _ => rfl
    | cons character rest ih =>
        intro collected tokens
        rw [List.flatMap_cons, scan_append (scan_escapeCharacter character tokens collected), ih,
          List.reverse_append, List.append_assoc]
  intro before
  have opened : Scan.between.step '"' = some ([], .quoted []) := rfl
  have closed : (Scan.quoted (text.toList.flatMap escapeCharacter).reverse).step '"' =
      some ([.text (some text)], .between) := by
    rw [Scan.step, if_pos (beq_self_eq_true _), List.reverse_reverse, ofQuoted_escaped,
      String.ofList_toList]
    rfl
  have scanned := inside text.toList [] before
  rw [List.append_nil] at scanned
  rw [quote, List.cons_append, scan_cons opened]
  exact (scan_append scanned ['"']).trans (scan_cons closed [] before)

theorem start_of_digit {digit : Char} (isDigit : digit.isDigit = true) :
    Scan.start digit = some ([], .number [digit]) := by
  have blank : isBlank digit = false := by
    simp only [isBlank, Bool.or_eq_false_iff]
    refine ⟨⟨⟨?_, ?_⟩, ?_⟩, ?_⟩ <;> refine beq_false_of_ne ?_ <;> rintro rfl <;> contradiction
  have punctuation : Token.ofPunctuation digit = none := by
    unfold Token.ofPunctuation
    split <;> first | rfl | contradiction
  have quote : digit ≠ '"' := by
    rintro rfl
    contradiction
  rw [Scan.start, blank, punctuation, beq_false_of_ne quote, isDigit, Bool.or_true]
  rfl

theorem scan_digits {digits : List Char} (all : ∀ digit ∈ digits, digit.isDigit = true)
    (tokens : List Token) (collected : List Char) :
    digits.foldlM Scan.feed (tokens, .number collected) =
      some (tokens, .number (digits.reverse ++ collected)) := by
  induction digits generalizing collected with
  | nil => rfl
  | cons digit rest ih =>
      have continues : continuesNumber digit = true := by
        simp [continuesNumber, all digit List.mem_cons_self]
      have step : (Scan.number collected).step digit =
          some ([], .number (digit :: collected)) := if_pos continues
      have later := ih fun other listed => all other (List.mem_cons_of_mem _ listed)
      rw [scan_cons step, List.reverse_cons, List.append_assoc]
      exact later _

theorem scansBefore_writeNatural (value : Nat) :
    ScansBefore (writeNatural value) [.natural value] := by
  intro mark token punctuation before
  -- The digits alone are no token yet: the mark behind them is what ends the number.
  have ends : continuesNumber mark = false := not_of_punctuation (by decide) punctuation
  have final : (Scan.number (Nat.toDigits 10 value).reverse).step mark =
      some ([.natural value, token], .between) := by
    rw [Scan.step, ends, List.reverse_reverse, ofNumber_toDigits, start_of_punctuation punctuation]
    rfl
  have all : ∀ digit ∈ Nat.toDigits 10 value, digit.isDigit = true :=
    List.all_eq_true.mp (all_isDigit_toDigits value)
  have scanned : (writeNatural value).foldlM Scan.feed (before, .between) =
      some (before, .number (Nat.toDigits 10 value).reverse) := by
    rw [writeNatural]
    cases written : Nat.toDigits 10 value with
    | nil => exact absurd written Nat.toDigits_ne_nil
    | cons first rest =>
        rw [written] at all
        have start : Scan.between.step first = some ([], .number [first]) :=
          start_of_digit (all first List.mem_cons_self)
        rw [scan_cons start, List.reverse_cons]
        exact scan_digits (fun other listed => all other (List.mem_cons_of_mem _ listed)) _ _
  exact (scan_append scanned [mark]).trans (scan_cons final [] before)

theorem scansBefore_writeBoolean (value : Bool) :
    ScansBefore (writeBoolean value) [.boolean value] := by
  intro mark token punctuation before
  have ends : mark.isLower = false := not_of_punctuation (by decide) punctuation
  have final : (Scan.word (writeBoolean value).reverse).step mark =
      some ([.boolean value, token], .between) := by
    rw [Scan.step, ends, List.reverse_reverse,
      start_of_punctuation punctuation]
    cases value <;> rfl
  have scanned : (writeBoolean value).foldlM Scan.feed (before, .between) =
      some (before, .word (writeBoolean value).reverse) := by
    cases value <;> rfl
  exact (scan_append scanned [mark]).trans (scan_cons final [] before)

end Scanning

end Enlistment.Json
