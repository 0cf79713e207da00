import Mathlib.Data.String.Basic

/-!
How many bytes a text takes.
-/

namespace Enlistment.Text

@[simp]
theorem utf8Len_replicate (count : Nat) (character : Char) :
    String.utf8Len (List.replicate count character) = count * character.utf8Size := by
  induction count with
  | zero => simp
  | succ count ih => rw [List.replicate_succ, String.utf8Len_cons, ih, Nat.succ_mul]

@[simp]
theorem utf8ByteSize_ofList (characters : List Char) :
    (String.ofList characters).utf8ByteSize = String.utf8Len characters := by
  rw [← String.utf8Len_toList, String.toList_ofList]

/-- An escape that makes some characters longer makes a text longer by as much for each of them. -/
theorem utf8Len_flatMap {escape : Char → List Char} {special : Char → Bool} {extra : Nat}
    (each : ∀ character, String.utf8Len (escape character) =
      character.utf8Size + if special character then extra else 0) (characters : List Char) :
    String.utf8Len (characters.flatMap escape) =
      String.utf8Len characters + extra * characters.countP special := by
  induction characters with
  | nil => simp
  | cons character rest ih =>
      rw [List.flatMap_cons, String.utf8Len_append, each, ih, String.utf8Len_cons,
        List.countP_cons, Nat.mul_add]
      split <;> omega

end Enlistment.Text
