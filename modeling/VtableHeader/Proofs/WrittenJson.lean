import VtableHeader.Json.Writer
import VtableHeader.Proofs.JsonGrammar

/-!
# Written JSON

The writer chooses among the forms of the grammar.  Inside strings it escapes the quote, the
backslash and the controls and nothing else; it puts every item and member of a container on a line
of its own, and a blank behind the colon of a member.  So a written value is a text that denotes it,
and is read like any other such text.

Numbers are left out here: a spelling that was never read need not be one that can be.
-/

namespace VtableHeader.Json

/-- A value without numbers that has at most `depth` arrays and objects inside one another. -/
inductive Plain : Nat → Json → Prop where
  | null {depth : Nat} : Plain depth .null
  | bool {depth : Nat} (value : Bool) : Plain depth (.bool value)
  | string {depth : Nat} (text : String) : Plain depth (.string text)
  | array {depth : Nat} {items : List Json} (each : ∀ item ∈ items, Plain depth item) :
      Plain (depth + 1) (.array items)
  | object {depth : Nat} {members : List (String × Json)}
      (each : ∀ member ∈ members, Plain depth member.2) : Plain (depth + 1) (.object members)

/-- A control is spelled by two hexadecimal digits after two zeros. -/
theorem hex4_control {code : Nat} (control : code < 0x20) :
    Hex4 ['0', '0', hexDigit (code / 16), hexDigit (code % 16)] code := by
  have digits : ∀ code < 0x20,
      ['0', '0', hexDigit (code / 16), hexDigit (code % 16)].all (Numeral.isDigitOf 16) = true ∧
        Numeral.ofDigits 16 ['0', '0', hexDigit (code / 16), hexDigit (code % 16)] = code := by
    decide
  obtain ⟨hexadecimal, value⟩ := digits code control
  exact ⟨rfl, hexadecimal, value⟩

theorem charText_writeChar (char : Char) : CharText (writeChar char) char := by
  by_cases short : char ∈ ['"', '\\', '\x08', '\x0c', '\n', '\r', '\t']
  · simp only [List.mem_cons, List.not_mem_nil, or_false] at short
    rcases short with rfl | rfl | rfl | rfl | rfl | rfl | rfl <;> exact .short (by decide)
  · simp only [List.mem_cons, List.not_mem_nil, or_false, not_or] at short
    obtain ⟨notQuote, notBackslash, others⟩ := short
    by_cases control : char.toNat < 0x20
    · have notLow : isLowSurrogate char.toNat = false := by
        simp [isLowSurrogate]
        omega
      have notHigh : isHighSurrogate char.toNat = false := by
        simp [isHighSurrogate]
        omega
      have spelled := CharText.unicode (hex4_control control) notLow notHigh
      rw [Char.ofNat_toNat] at spelled
      simpa [writeChar, notQuote, notBackslash, others, control] using spelled
    · have itself : isPlain char = true := by
        simp [isPlain, notQuote, notBackslash, Nat.not_lt.mp control]
      simpa [writeChar, notQuote, notBackslash, others, control] using CharText.plain itself

theorem charsText_flatMap_writeChar (chars : List Char) :
    CharsText (chars.flatMap writeChar) chars := by
  induction chars with
  | nil => exact .nil
  | cons char rest ih =>
      rw [List.flatMap_cons]
      exact .cons (charText_writeChar char) ih

theorem blanks_nil : Blanks [] :=
  List.forall_mem_nil _

theorem blanks_space : Blanks [' '] :=
  List.forall_mem_singleton.mpr rfl

theorem blanks_lineBreak (level : Nat) : Blanks (lineBreak level) := by
  intro char member
  rcases List.mem_cons.mp member with rfl | space
  · rfl
  · rw [List.eq_of_mem_replicate space]
    rfl

/-! ## Lines of a container -/

section Lines

variable {α β : Type}

/-- The forms of the items of a container; `close` stands behind the last one. -/
def formsUpTo (form : List Char → α → β) (close : List Char) : α → List α → List β
  | last, [] => [form close last]
  | item, next :: more => form [] item :: formsUpTo form close next more

variable {form : List Char → α → β} {close : List Char}

theorem exists_formsUpTo_eq_cons (first : α) (others : List α) :
    ∃ made more, formsUpTo form close first others = made :: more := by
  cases others with
  | nil => exact ⟨_, _, rfl⟩
  | cons next more => exact ⟨_, _, rfl⟩

theorem formsUpTo_ne_nil (first : α) (others : List α) :
    formsUpTo form close first others ≠ [] := by
  obtain ⟨made, more, shape⟩ := @exists_formsUpTo_eq_cons α β form close first others
  simp [shape]

theorem map_formsUpTo {value : β → α} (same : ∀ behind item, value (form behind item) = item)
    (first : α) (others : List α) :
    (formsUpTo form close first others).map value = first :: others := by
  induction others generalizing first with
  | nil => simp [formsUpTo, same]
  | cons next more ih => simp [formsUpTo, same, ih]

theorem separated_formsUpTo (text : β → List Char) (write : α → List Char)
    (shows : ∀ behind item, text (form behind item) = write item ++ behind) (first : α)
    (others : List α) :
    separated ((formsUpTo form close first others).map text) =
      write first ++ (others.flatMap (fun item => ',' :: write item) ++ close) := by
  induction others generalizing first with
  | nil => simp [formsUpTo, separated_singleton, shows]
  | cons next more ih =>
      have tail := ih next
      obtain ⟨second, rest, shape⟩ := @exists_formsUpTo_eq_cons α β form close next more
      rw [shape, List.map_cons] at tail
      rw [formsUpTo, shape, List.map_cons, List.map_cons, separated_cons_cons, tail, shows]
      simp

theorem forall_mem_formsUpTo {property : β → Prop} {first : α} {others : List α}
    (each : ∀ item ∈ first :: others, ∀ behind ∈ [[], close], property (form behind item)) :
    ∀ made ∈ formsUpTo form close first others, property made := by
  induction others generalizing first with
  | nil => simpa [formsUpTo] using each first List.mem_cons_self close
  | cons next more ih =>
      obtain ⟨here, later⟩ := List.forall_mem_cons.mp each
      exact List.forall_mem_cons.mpr ⟨here [] List.mem_cons_self, ih later⟩

end Lines

/-- An item on its line, and the value that it denotes. -/
def itemForm (level : Nat) (behind : List Char) (json : Json) : List Char × Json :=
  (lineBreak level ++ (writeAt level json ++ behind), json)

/-- A member on its line. -/
def memberForm (level : Nat) (behind : List Char) (member : String × Json) : MemberForm where
  member := member
  before := lineBreak level
  key := member.1.toList.flatMap writeChar
  between := []
  value := [' '] ++ (writeAt level member.2 ++ behind)

theorem writeItems_eq (level : Nat) (others : List Json) :
    writeItems level others =
      others.flatMap fun json => ',' :: (lineBreak level ++ writeAt level json) := by
  induction others with
  | nil => rfl
  | cons json rest ih => simp [writeItems, ih]

theorem writeMembers_eq (level : Nat) (others : List (String × Json)) :
    writeMembers level others =
      others.flatMap fun member => ',' :: (lineBreak level ++ writeMember level member) := by
  induction others with
  | nil => rfl
  | cons member rest ih => simp [writeMembers, ih]

theorem text_memberForm (level : Nat) (behind : List Char) (member : String × Json) :
    (memberForm level behind member).text =
      lineBreak level ++ writeMember level member ++ behind := by
  obtain ⟨key, json⟩ := member
  simp [MemberForm.text, memberForm, writeMember, writeString]

section Containers

variable {depth : Nat}

/-- What may stand behind a line: nothing, or the line break that leads back to the container. -/
theorem blanks_of_mem {level : Nat} {behind : List Char} (member : behind ∈ [[], lineBreak level]) :
    Blanks behind := by
  simp only [List.mem_cons, List.not_mem_nil, or_false] at member
  rcases member with rfl | rfl
  · exact blanks_nil
  · exact blanks_lineBreak level

theorem denotes_writeAt_array {level : Nat} {items : List Json}
    (each : ∀ json ∈ items, Denotes depth (writeAt (level + 1) json) json) :
    Denotes (depth + 1) (writeAt level (.array items)) (.array items) := by
  cases items with
  | nil => exact .emptyArray blanks_nil
  | cons first others =>
      have items : ∀ item ∈ formsUpTo (itemForm (level + 1)) (lineBreak level) first others,
          Denotes depth item.1 item.2 := by
        apply forall_mem_formsUpTo
        intro json member behind stands
        exact .spaced (blanks_lineBreak _) (blanks_of_mem stands) (each json member)
      have whole := Denotes.array (formsUpTo_ne_nil first others) items
      rw [map_formsUpTo fun _ _ => rfl,
        separated_formsUpTo Prod.fst fun json => lineBreak (level + 1) ++ writeAt (level + 1) json]
        at whole
      · simpa [writeAt, writeItems_eq] using whole
      · simp [itemForm]

theorem denotes_writeAt_object {level : Nat} {members : List (String × Json)}
    (each : ∀ member ∈ members, Denotes depth (writeAt (level + 1) member.2) member.2) :
    Denotes (depth + 1) (writeAt level (.object members)) (.object members) := by
  cases members with
  | nil => exact .emptyObject blanks_nil
  | cons first others =>
      have keys : ∀ form ∈ formsUpTo (memberForm (level + 1)) (lineBreak level) first others,
          CharsText form.key form.member.1.toList := by
        apply forall_mem_formsUpTo
        intro member _ _ _
        exact charsText_flatMap_writeChar member.1.toList
      have blanks : ∀ form ∈ formsUpTo (memberForm (level + 1)) (lineBreak level) first others,
          Blanks form.before ∧ Blanks form.between := by
        apply forall_mem_formsUpTo
        intro _ _ _ _
        exact ⟨blanks_lineBreak _, blanks_nil⟩
      have values : ∀ form ∈ formsUpTo (memberForm (level + 1)) (lineBreak level) first others,
          Denotes depth form.value form.member.2 := by
        apply forall_mem_formsUpTo
        intro member listed behind stands
        exact .spaced blanks_space (blanks_of_mem stands) (each member listed)
      have whole := Denotes.object (formsUpTo_ne_nil first others) keys blanks values
      rw [map_formsUpTo fun _ _ => rfl,
        separated_formsUpTo _ _ (text_memberForm (level + 1))] at whole
      simpa [writeAt, writeMembers_eq] using whole

end Containers

/-- A written value without numbers denotes that value. -/
theorem Plain.denotes {depth : Nat} {json : Json} (plain : Plain depth json) (level : Nat) :
    Denotes depth (writeAt level json) json := by
  induction plain generalizing level with
  | null => exact .null
  | bool value =>
      cases value with
      | true => exact .true
      | false => exact .false
  | @string depth text =>
      have spelled := @Denotes.string depth _ _ (charsText_flatMap_writeChar text.toList)
      rwa [String.ofList_toList] at spelled
  | array _ ih => exact denotes_writeAt_array fun json member => ih json member (level + 1)
  | object _ ih => exact denotes_writeAt_object fun member listed => ih member listed (level + 1)

end VtableHeader.Json
