import Enlistment.Json.Value
import Enlistment.Proofs.Json.Scanner

/-!
What is written on one line is read back. From its tokens the reader gets the value that was
written, whatever is open around it; so arrays and objects are read back whole, item by item.
-/

namespace Enlistment.Json

section Reading

def Delivers (tokens : List Token) (value : Json) : Prop :=
  ∀ stack, tokens.foldlM advance (.inside stack .value) = deliver value stack

def Writes (text : List Char) (value : Json) : Prop :=
  ∃ tokens, ScansBefore text tokens ∧ Delivers tokens value

theorem delivers_single {token : Token} {value : Json}
    (starts : ∀ stack, startValue stack token = deliver value stack) : Delivers [token] value := by
  intro stack
  rw [List.foldlM_cons, advance, starts]
  exact bind_pure _

theorem writes_quote (text : String) : Writes (quote text) (.text (some text)) :=
  ⟨_, (scans_quote text).before, delivers_single fun _ => rfl⟩

theorem writes_writeNatural (value : Nat) : Writes (writeNatural value) (.natural value) :=
  ⟨_, scansBefore_writeNatural value, delivers_single fun _ => rfl⟩

theorem writes_writeBoolean (value : Bool) : Writes (writeBoolean value) (.boolean value) :=
  ⟨_, scansBefore_writeBoolean value, delivers_single fun _ => rfl⟩

theorem read_append {tokens : List Token} {before after : Progress}
    (read : tokens.foldlM advance before = some after) (more : List Token) :
    (tokens ++ more).foldlM advance before = more.foldlM advance after := by
  rw [List.foldlM_append, read]
  rfl

theorem read_cons {token : Token} {before after : Progress}
    (read : advance before token = some after) (more : List Token) :
    (token :: more).foldlM advance before = more.foldlM advance after := by
  rw [List.foldlM_cons, read]
  rfl

structure Container (Item : Type) where
  frame : List Item → Frame
  value : List Item → Json
  opening : Token
  closing : Token
  first : Expectation
  next : Expectation
  opens : ∀ stack,
    advance (.inside stack .value) opening = some (.inside (frame [] :: stack) first)
  enters : ∀ stack token, token ≠ closing →
    advance (.inside stack first) token = advance (.inside stack next) token
  refuses : ∀ stack, advance (.inside stack next) closing = none
  differs : next ≠ .commaOrClose
  comma : ∀ items stack,
    advance (.inside (frame items :: stack) .commaOrClose) .comma =
      some (.inside (frame items :: stack) next)
  closes : ∀ items stack,
    advance (.inside (frame items :: stack) .commaOrClose) closing =
      deliver (value items.reverse) stack
  closesEmpty : ∀ stack,
    advance (.inside (frame [] :: stack) first) closing = deliver (value []) stack

def arrays : Container Json where
  frame := .array
  value := .array
  opening := .openArray
  closing := .closeArray
  first := .firstItem
  next := .value
  opens := fun _ => rfl
  enters := fun _ _ different => if_neg different
  refuses := fun _ => rfl
  differs := by decide
  comma := fun _ _ => rfl
  closes := fun _ _ => rfl
  closesEmpty := fun _ => rfl

def objects : Container (Option String × Json) where
  frame := .object
  value := .object
  opening := .openObject
  closing := .closeObject
  first := .firstKey
  next := .key
  opens := fun _ => rfl
  enters := fun _ _ different => if_neg different
  refuses := fun stack => by cases stack with
    | nil => rfl
    | cons frame rest => cases frame <;> rfl
  differs := by decide
  comma := fun _ _ => rfl
  closes := fun _ _ => rfl
  closesEmpty := fun _ => rfl

variable {Item : Type} (container : Container Item)

def Container.Fills (text : List Char) (item : Item) : Prop :=
  ∃ tokens, ScansBefore text tokens ∧ ∀ items stack,
    tokens.foldlM advance (.inside (container.frame items :: stack) container.next) =
      some (.inside (container.frame (item :: items) :: stack) .commaOrClose)

theorem fills_array {text : List Char} {value : Json} (writes : Writes text value) :
    arrays.Fills text value := by
  obtain ⟨tokens, scans, delivers⟩ := writes
  exact ⟨tokens, scans, fun items stack => delivers (.array items :: stack)⟩

theorem fills_object {text : List Char} {value : Json} (key : String) (writes : Writes text value) :
    objects.Fills (quote key ++ ':' :: text) (some key, value) := by
  obtain ⟨tokens, scans, delivers⟩ := writes
  refine ⟨.text (some key) :: .colon :: tokens, ?_, ?_⟩
  · intro mark token punctuation
    have colon : Scans [':'] [.colon] := scans_punctuation rfl
    have whole := (scans_quote key).append (colon.append (scans mark token punctuation))
    rw [List.append_assoc]
    exact whole
  · intro items stack
    exact delivers (.member items (some key) :: stack)

theorem Container.fills_items {pairs : List (List Char × Item)} (some : pairs ≠ [])
    (each : ∀ pair ∈ pairs, container.Fills pair.1 pair.2) :
    ∃ tokens, ScansBefore (separate [','] (pairs.map Prod.fst)) tokens ∧ ∀ items stack,
      tokens.foldlM advance (.inside (container.frame items :: stack) container.next) =
        .some (.inside (container.frame ((pairs.map Prod.snd).reverse ++ items) :: stack)
          .commaOrClose) := by
  induction pairs with
  | nil => contradiction
  | cons pair rest ih =>
      obtain ⟨tokens, scans, reads⟩ := each pair List.mem_cons_self
      cases rest with
      | nil => exact ⟨tokens, scans, reads⟩
      | cons next rest =>
          obtain ⟨more, scansMore, readsMore⟩ :=
            ih (List.cons_ne_nil _ _) fun other listed => each other (List.mem_cons_of_mem _ listed)
          refine ⟨tokens ++ .comma :: more, ?_, ?_⟩
          · intro mark token punctuation
            have whole := (scans ',' .comma rfl).append (scansMore mark token punctuation)
            simpa [separate] using whole
          · intro items stack
            rw [read_append (reads items stack), read_cons (container.comma _ _), readsMore]
            simp

/-- The text of the whole value is read on its own. -/
theorem Container.writes (opening closing : Char) {pairs : List (List Char × Item)}
    (opens : Token.ofPunctuation opening = some container.opening)
    (closes : Token.ofPunctuation closing = some container.closing)
    (each : ∀ pair ∈ pairs, container.Fills pair.1 pair.2) :
    ∃ tokens, Scans (opening :: separate [','] (pairs.map Prod.fst) ++ [closing]) tokens ∧
      Delivers tokens (container.value (pairs.map Prod.snd)) := by
  have opened := scans_punctuation opens
  by_cases none : pairs = []
  · subst none
    refine ⟨[container.opening, container.closing], opened.append (scans_punctuation closes), ?_⟩
    intro stack
    rw [read_cons (container.opens stack), List.foldlM_cons, container.closesEmpty]
    exact bind_pure _
  · obtain ⟨tokens, scans, reads⟩ := container.fills_items none each
    refine ⟨container.opening :: (tokens ++ [container.closing]),
      opened.append (scans closing _ closes), ?_⟩
    intro stack
    -- The first item is read where the value might still end; since it does not start with the
    -- closing bracket, this makes no difference.
    have items := reads [] stack
    have entered : tokens.foldlM advance (.inside (container.frame [] :: stack) container.first) =
        tokens.foldlM advance (.inside (container.frame [] :: stack) container.next) := by
      cases tokens with
      | nil =>
          rw [List.foldlM_nil] at items
          have same := Option.some.inj items
          exact absurd (Progress.inside.inj same).2 container.differs
      | cons token rest =>
          have different : token ≠ container.closing := by
            rintro rfl
            rw [List.foldlM_cons, container.refuses] at items
            contradiction
          rw [List.foldlM_cons, List.foldlM_cons, container.enters _ _ different]
    rw [items] at entered
    rw [read_cons (container.opens stack), read_append entered, List.foldlM_cons, container.closes,
      List.append_nil, List.reverse_reverse]
    exact bind_pure _

end Reading

section Values

theorem parse_of_scans {text : List Char} {tokens : List Token} {value : Json}
    (scans : Scans text tokens) (delivers : Delivers tokens value) :
    parse (String.ofList text) = some value := by
  have read : tokenize text = some tokens := by
    rw [tokenize, scans []]
    simp [Scan.finish]
  rw [parse, String.toList_ofList, read, Option.bind_eq_bind, Option.bind_some, delivers []]
  rfl

theorem parse_writeArray {pairs : List (List Char × Json)}
    (each : ∀ pair ∈ pairs, Writes pair.1 pair.2) :
    parse (String.ofList (writeArray (pairs.map Prod.fst))) =
      some (.array (pairs.map Prod.snd)) := by
  obtain ⟨tokens, scans, delivers⟩ := arrays.writes '[' ']' rfl rfl
    fun pair listed => fills_array (each pair listed)
  exact parse_of_scans scans delivers

theorem parse_writeObject {members : List (String × List Char × Json)}
    (each : ∀ member ∈ members, Writes member.2.1 member.2.2) :
    parse (String.ofList (writeObject (members.map fun member => (member.1, member.2.1)))) =
      some (.object (members.map fun member => (some member.1, member.2.2))) := by
  have fills : ∀ pair ∈ members.map fun member =>
      (quote member.1 ++ ':' :: member.2.1, ((some member.1, member.2.2) : Option String × Json)),
      objects.Fills pair.1 pair.2 := by
    intro pair listed
    obtain ⟨member, known, rfl⟩ := List.mem_map.mp listed
    exact fills_object member.1 (each member known)
  obtain ⟨tokens, scans, delivers⟩ := objects.writes '\x7b' '\x7d' rfl rfl fills
  rw [List.map_map] at scans delivers
  refine parse_of_scans (?_ : Scans _ tokens) delivers
  rw [writeObject, List.map_map]
  exact scans

theorem filter_key {members : List (String × Json)} (distinct : (members.map Prod.fst).Nodup)
    {member : String × Json} (listed : member ∈ members) :
    (members.map fun member => (some member.1, member.2)).filter (·.1 == some member.1) =
      [(some member.1, member.2)] := by
  induction members with
  | nil => contradiction
  | cons first rest ih =>
      rw [List.map_cons, List.nodup_cons] at distinct
      rw [List.map_cons, List.filter_cons]
      rcases List.mem_cons.mp listed with rfl | later
      · have none : (rest.map fun member => (some member.1, member.2)).filter
            (·.1 == some member.1) = [] := by
          rw [List.filter_eq_nil_iff]
          intro pair known same
          obtain ⟨other, inside, rfl⟩ := List.mem_map.mp known
          have key : other.1 = member.1 := by simpa using same
          exact distinct.1 (key ▸ List.mem_map_of_mem inside)
        rw [if_pos (beq_self_eq_true _), none]
      · have different : first.1 ≠ member.1 := fun same =>
          distinct.1 (same ▸ List.mem_map_of_mem later)
        rw [if_neg (by simpa using different)]
        exact ih distinct.2 later

theorem mapM_keys {pick : String → Option Json} {members : List (String × Json)}
    (picked : ∀ member ∈ members, pick member.1 = some member.2) :
    (members.map Prod.fst).mapM pick = some (members.map Prod.snd) := by
  induction members with
  | nil => rfl
  | cons member rest ih =>
      rw [List.map_cons, List.mapM_cons, picked member List.mem_cons_self,
        ih fun other later => picked other (List.mem_cons_of_mem _ later)]
      rfl

theorem fields?_object {members : List (String × Json)}
    (distinct : (members.map Prod.fst).Nodup) :
    fields? (members.map Prod.fst) (.object (members.map fun member => (some member.1, member.2))) =
      some (members.map Prod.snd) := by
  have named : (members.map fun member => (some member.1, member.2)).all (·.1.isSome) = true := by
    simp
  rw [fields?, if_pos named]
  refine mapM_keys fun member inside => ?_
  rw [filter_key distinct inside]

/-- A record is written field by field, and the fields are found again by their names. -/
theorem parse_fields {members : List (String × List Char × Json)}
    (each : ∀ member ∈ members, Writes member.2.1 member.2.2)
    (distinct : (members.map Prod.fst).Nodup) :
    ∃ value,
      parse (String.ofList (writeObject (members.map fun member => (member.1, member.2.1)))) =
        some value ∧
      value.fields? (members.map Prod.fst) = some (members.map fun member => member.2.2) := by
  refine ⟨_, parse_writeObject each, ?_⟩
  have names : (members.map fun member => (member.1, member.2.2)).map Prod.fst =
      members.map Prod.fst := by
    rw [List.map_map]
    rfl
  have fields := fields?_object (names.symm ▸ distinct)
  rw [names, List.map_map, List.map_map] at fields
  exact fields

end Values

end Enlistment.Json
