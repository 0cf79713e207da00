import Enlistment.Json.Writer
import Enlistment.Proofs.Text.Size

/-!
What the writer puts out on one line. Control characters inside a text are escaped, and everything
else that is written comes from the writer itself, so no control character is left. A text without
anything to escape takes two bytes more than it has.
-/

namespace Enlistment.Json

def Printable (text : List Char) : Prop :=
  ∀ character ∈ text, 0x20 ≤ character.toNat

instance (text : List Char) : Decidable (Printable text) :=
  List.decidableBAll (fun character : Char => 0x20 ≤ character.toNat) text

theorem printable_cons (first : Char) (rest : List Char) :
    Printable (first :: rest) ↔ 0x20 ≤ first.toNat ∧ Printable rest := by
  simp [Printable]

theorem Printable.append {left right : List Char} (before : Printable left)
    (after : Printable right) : Printable (left ++ right) := by
  intro character member
  rcases List.mem_append.mp member with early | late
  · exact before character early
  · exact after character late

theorem Printable.lineFeed_not_mem {text : List Char} (printable : Printable text) :
    '\n' ∉ text := by
  intro member
  exact absurd (printable '\n' member) (by decide)

theorem Printable.carriageReturn_not_mem {text : List Char} (printable : Printable text) :
    '\r' ∉ text := by
  intro member
  exact absurd (printable '\r' member) (by decide)

theorem printable_fourHexDigits {code : Nat} (control : code < 0x20) :
    Printable (fourHexDigits code) := by
  have all : ∀ code < 0x20, Printable (fourHexDigits code) := by decide
  exact all code control

theorem printable_escapeCharacter (character : Char) : Printable (escapeCharacter character) := by
  unfold escapeCharacter
  split
  case h_8 =>
    by_cases control : character.toNat < 0x20
    · rw [if_pos control]
      have digits := printable_fourHexDigits control
      exact (printable_cons _ _).mpr ⟨by decide, (printable_cons _ _).mpr ⟨by decide, digits⟩⟩
    · rw [if_neg control]
      intro other member
      rw [List.mem_singleton.mp member]
      omega
  all_goals decide

theorem printable_quote (text : String) : Printable (quote text) := by
  have escaped : Printable (text.toList.flatMap escapeCharacter) := by
    intro character member
    obtain ⟨source, _, inside⟩ := List.mem_flatMap.mp member
    exact printable_escapeCharacter source character inside
  exact Printable.append ((printable_cons _ _).mpr ⟨by decide, escaped⟩) (by decide)

theorem printable_writeNatural (value : Nat) : Printable (writeNatural value) := by
  intro character member
  have digit := Nat.isDigit_of_mem_toDigits (by decide) (by decide) member
  simp only [Char.isDigit, Bool.and_eq_true, decide_eq_true_eq, ge_iff_le,
    UInt32.le_iff_toNat_le] at digit
  have lowest : '0'.val.toNat = 48 := rfl
  have value : character.val.toNat = character.toNat := rfl
  omega

theorem printable_writeBoolean (value : Bool) : Printable (writeBoolean value) := by
  cases value <;> decide

theorem printable_separate {separator : List Char} {items : List (List Char)}
    (between : Printable separator) (each : ∀ item ∈ items, Printable item) :
    Printable (separate separator items) := by
  fun_induction separate separator items with
  | case1 => decide
  | case2 item => exact each item (List.mem_singleton_self item)
  | case3 item next rest ih =>
      have first := each item List.mem_cons_self
      have later := ih fun other member => each other (List.mem_cons_of_mem _ member)
      exact (first.append between).append later

theorem printable_writeObject {members : List (String × List Char)}
    (values : ∀ member ∈ members, Printable member.2) : Printable (writeObject members) := by
  have inside : Printable
      (separate [','] (members.map fun member => quote member.1 ++ ':' :: member.2)) := by
    refine printable_separate (by decide) ?_
    intro item listed
    obtain ⟨member, known, rfl⟩ := List.mem_map.mp listed
    have value := (printable_cons ':' member.2).mpr ⟨by decide, values member known⟩
    exact (printable_quote member.1).append value
  exact Printable.append ((printable_cons _ _).mpr ⟨by decide, inside⟩) (by decide)

theorem printable_writeArray {items : List (List Char)} (each : ∀ item ∈ items, Printable item) :
    Printable (writeArray items) := by
  have inside : Printable (separate [','] items) := printable_separate (by decide) each
  exact Printable.append ((printable_cons _ _).mpr ⟨by decide, inside⟩) (by decide)

def Plain (character : Char) : Prop :=
  escapeCharacter character = [character]

instance (character : Char) : Decidable (Plain character) :=
  inferInstanceAs (Decidable (escapeCharacter character = [character]))

theorem utf8Len_quote_of_plain {text : String}
    (plain : ∀ character ∈ text.toList, Plain character) :
    String.utf8Len (quote text) = text.utf8ByteSize + 2 := by
  have same : text.toList.flatMap escapeCharacter = text.toList :=
    (List.flatMap_congr plain).trans (List.flatMap_singleton' _)
  have mark : '"'.utf8Size = 1 := by decide
  rw [quote, same, List.cons_append, String.utf8Len_cons, String.utf8Len_append,
    String.utf8Len_toList, String.utf8Len_cons, String.utf8Len_nil, mark]

end Enlistment.Json
