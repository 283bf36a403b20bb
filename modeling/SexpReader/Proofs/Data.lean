/-
# Programs and their JSON texts

Different programs have different JSON texts. The argument goes down the layers: a program can
be told from its data, data of one level from the text that it stands in front of, and a JSON
string from what follows it. What comes first in each form tells the forms apart: a brace, a
bracket with another behind it, or a bracket with a line behind it; and a comma or the end of a
line tells whether there are more elements. The text has no characters but visible ones and
line feeds.
-/

import SexpReader.Data
import SexpReader.Proofs.Text.JsonString

namespace SexpReader

namespace Data

/-! ## The text by recursion -/

/-- The characters of the start of a line. -/
def lineStart (level : Nat) : List Char :=
  '\n' :: List.replicate (2 * level) ' '

theorem toList_newline (level : Nat) : (newline level).toList = lineStart level := by
  simp [newline, lineStart]

mutual

/-- The characters of data at a level. -/
def chars (level : Nat) : Data → List Char
  | labelled label text =>
      ['\x7b'] ++ lineStart (level + 1) ++ (Text.jsonString label).toList ++ [':', ' '] ++
        (Text.jsonString text).toList ++ lineStart level ++ ['\x7d']
  | list [] => ['[', ']']
  | list (item :: items) =>
      ['['] ++ lineStart (level + 1) ++ item.chars (level + 1) ++ charsMore (level + 1) items ++
        lineStart level ++ [']']

/-- The characters of the elements after the first. -/
def charsMore (level : Nat) : List Data → List Char
  | [] => []
  | item :: items => [','] ++ lineStart level ++ item.chars level ++ charsMore level items

end

mutual

/-- Writing adds the characters of the data. -/
theorem toList_write (level : Nat) (out : String) (data : Data) :
    (write level out data).toList = out.toList ++ data.chars level := by
  match data with
  | labelled label text =>
      simp only [write, chars, String.toList_append, toList_newline, List.append_assoc]
      rfl
  | list [] =>
      rw [write, chars, String.toList_append]
      rfl
  | list (item :: items) =>
      simp only [write, chars, String.toList_append, toList_writeMore, toList_write,
        toList_newline, List.append_assoc]
      rfl

theorem toList_writeMore (level : Nat) (out : String) (items : List Data) :
    (writeMore level out items).toList = out.toList ++ charsMore level items := by
  match items with
  | [] => rw [writeMore, charsMore, List.append_nil]
  | item :: items =>
      simp only [writeMore, charsMore, String.toList_append, toList_writeMore, toList_write,
        toList_newline, List.append_assoc]
      rfl

end

theorem toList_toJson (data : Data) : data.toJson.toList = data.chars 0 := by
  rw [toJson, toList_write]
  rfl

/-! ## Telling data from their text -/

mutual

/-- Data can be told from a text that begins with their characters. -/
theorem chars_append_inj (first second : Data) {level : Nat} {rest more : List Char}
    (h : first.chars level ++ rest = second.chars level ++ more) :
    first = second ∧ rest = more := by
  match first, second with
  | labelled label text, labelled otherLabel otherText =>
      simp only [chars, List.append_assoc, List.append_cancel_left_eq] at h
      obtain ⟨rfl, hbehindLabel⟩ := Text.isPrefixCode_jsonString h
      obtain ⟨rfl, hbehindText⟩ :=
        Text.isPrefixCode_jsonString (List.append_cancel_left hbehindLabel)
      exact ⟨rfl, List.append_cancel_left (List.append_cancel_left hbehindText)⟩
  | list [], list [] => exact ⟨rfl, List.append_cancel_left h⟩
  | list (item :: items), list (other :: others) =>
      simp only [chars, List.append_assoc, List.append_cancel_left_eq] at h
      obtain ⟨rfl, hbehindItem⟩ := chars_append_inj item other h
      obtain ⟨rfl, hrest⟩ := charsMore_append_inj items others hbehindItem
      exact ⟨rfl, hrest⟩
  | labelled _ _, list [] | labelled _ _, list (_ :: _) | list [], labelled _ _
  | list [], list (_ :: _) | list (_ :: _), labelled _ _ | list (_ :: _), list [] =>
      simp [chars, lineStart] at h

/-- More elements can be told from a text that goes on with the end of their list. -/
theorem charsMore_append_inj (firsts seconds : List Data) {level outer : Nat}
    {rest more : List Char}
    (h : charsMore level firsts ++ (lineStart outer ++ ([']'] ++ rest)) =
      charsMore level seconds ++ (lineStart outer ++ ([']'] ++ more))) :
    firsts = seconds ∧ rest = more := by
  match firsts, seconds with
  | [], [] => exact ⟨rfl, List.append_cancel_left (List.append_cancel_left h)⟩
  | first :: firsts, second :: seconds =>
      simp only [charsMore, List.append_assoc, List.append_cancel_left_eq] at h
      obtain ⟨rfl, hbehindItem⟩ := chars_append_inj first second h
      obtain ⟨rfl, hrest⟩ := charsMore_append_inj firsts seconds hbehindItem
      exact ⟨rfl, hrest⟩
  | [], _ :: _ | _ :: _, [] => simp [charsMore, lineStart] at h

end

theorem toJson_injective : Function.Injective toJson := by
  intro first second hsame
  have hchars : first.chars 0 ++ [] = second.chars 0 ++ [] := by
    rw [← toList_toJson, ← toList_toJson, hsame]
  exact (chars_append_inj first second hchars).1

/-! ## The characters of the text -/

/-- The characters of JSON texts. -/
def IsJsonChar (c : Char) : Prop :=
  c = '\n' ∨ Text.IsVisible c

instance : DecidablePred IsJsonChar :=
  fun c => inferInstanceAs (Decidable (c = '\n' ∨ Text.IsVisible c))

theorem isJsonChar_of_all {chars : List Char} (h : chars.all (IsJsonChar ·) = true) :
    ∀ c ∈ chars, IsJsonChar c := by
  simpa using h

theorem isJsonChar_lineStart (level : Nat) : ∀ c ∈ lineStart level, IsJsonChar c := by
  intro c hc
  rcases List.mem_cons.1 hc with rfl | hblank
  · decide
  · rw [List.eq_of_mem_replicate hblank]
    decide

theorem isJsonChar_jsonString (text : String) :
    ∀ c ∈ (Text.jsonString text).toList, IsJsonChar c :=
  fun _ hc => Or.inr (Text.isVisible_of_mem_jsonString hc)

mutual

theorem isJsonChar_chars (data : Data) (level : Nat) : ∀ c ∈ data.chars level, IsJsonChar c := by
  match data with
  | labelled label text =>
      simp only [chars, List.forall_mem_append]
      exact ⟨⟨⟨⟨⟨⟨isJsonChar_of_all rfl, isJsonChar_lineStart _⟩, isJsonChar_jsonString _⟩,
        isJsonChar_of_all rfl⟩, isJsonChar_jsonString _⟩, isJsonChar_lineStart _⟩,
        isJsonChar_of_all rfl⟩
  | list [] =>
      rw [chars]
      exact isJsonChar_of_all rfl
  | list (item :: items) =>
      simp only [chars, List.forall_mem_append]
      exact ⟨⟨⟨⟨⟨isJsonChar_of_all rfl, isJsonChar_lineStart _⟩, isJsonChar_chars item _⟩,
        isJsonChar_charsMore items _⟩, isJsonChar_lineStart _⟩, isJsonChar_of_all rfl⟩

theorem isJsonChar_charsMore (items : List Data) (level : Nat) :
    ∀ c ∈ charsMore level items, IsJsonChar c := by
  match items with
  | [] => simp [charsMore]
  | item :: items =>
      simp only [charsMore, List.forall_mem_append]
      exact ⟨⟨⟨isJsonChar_of_all rfl, isJsonChar_lineStart _⟩, isJsonChar_chars item _⟩,
        isJsonChar_charsMore items _⟩

end

end Data

/-! ## Programs -/

mutual

theorem Node.toData_inj (first second : Node) (h : first.toData = second.toData) :
    first = second := by
  match first, second with
  | .symbol text, .symbol otherText =>
      obtain ⟨-, rfl⟩ := Data.labelled.inj h
      rfl
  | .string text, .string otherText =>
      obtain ⟨-, rfl⟩ := Data.labelled.inj h
      rfl
  | .expression children, .expression otherChildren =>
      rw [toData_inj children otherChildren (Data.list.inj h)]
  | .symbol _, .string _ | .string _, .symbol _ =>
      exact absurd (Data.labelled.inj h).1 (by decide)
  | .symbol _, .expression _ | .string _, .expression _ | .expression _, .symbol _
  | .expression _, .string _ => cases h

/-- Data tell symbols from strings by their labels and expressions by being lists. -/
theorem toData_inj (first second : Program) (h : toData first = toData second) :
    first = second := by
  match first, second with
  | [], [] => rfl
  | node :: nodes, other :: others =>
      obtain ⟨hnode, hnodes⟩ := List.cons.inj h
      rw [node.toData_inj other hnode, toData_inj nodes others hnodes]
  | [], _ :: _ | _ :: _, [] => cases h

end

/-- The JSON text of a program is that of no other program, and its characters are visible ones
of ASCII and line feeds. -/
theorem toJson_eq_iff_and_visible (first second : Program) :
    (toJson first = toJson second ↔ first = second) ∧
      ∀ c ∈ (toJson first).toList, c = '\n' ∨ ' ' ≤ c ∧ c ≤ '~' := by
  constructor
  · constructor
    · intro hsame
      exact toData_inj first second (Data.list.inj (Data.toJson_injective hsame))
    · exact congrArg toJson
  · rw [toJson, Data.toList_toJson]
    exact Data.isJsonChar_chars _ 0

/-- A symbol and a string of one text, with an empty expression behind each and a character of
two UTF-16 units in it, and the quote that begins the text of the label. -/
theorem toJson_eq_iff_and_visible_of_same_text :
    toJson [.symbol "\n😀", .expression []] ≠ toJson [.string "\n😀", .expression []] ∧
      '"' ∈ (toJson [.symbol "\n😀", .expression []]).toList ∧
      ('"' = '\n' ∨ ' ' ≤ '"' ∧ '"' ≤ '~') := by
  obtain ⟨hiff, hvisible⟩ := toJson_eq_iff_and_visible
    [.symbol "\n😀", .expression []] [.string "\n😀", .expression []]
  have hmem : '"' ∈ (toJson [.symbol "\n😀", .expression []]).toList := by
    rw [toJson, Data.toList_toJson]
    decide
  refine ⟨?_, hmem, hvisible _ hmem⟩
  rw [ne_eq, hiff]
  decide

end SexpReader
