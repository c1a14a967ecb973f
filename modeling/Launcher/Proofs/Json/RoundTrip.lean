-- SUMMARY: What is written as JSON, on one line or indented, is one document that is read back as the value.
import Launcher.Proofs.Json.Fractions

/-!
# Documents that are read back

Both ways to write a value are layouts of the same tokens, with white space between them that the
reader skips. Reading goes down the value as writing did. What follows a value matters to numbers
alone, and no token that follows one in a document goes on with a number.
-/
namespace Launcher.Json

/-! ## White space -/

/-- White space between tokens. -/
def Blank (gap : List Char) : Prop := ∀ c ∈ gap, c = ' ' ∨ c = '\n'

theorem skipSpace_append {gap : List Char} (hgap : Blank gap) (text : List Char) :
    skipSpace (gap ++ text) = skipSpace text := by
  induction gap with
  | nil => rfl
  | cons c gap ih =>
    obtain ⟨hc, hrest⟩ := List.forall_mem_cons.mp hgap
    have hspace : c = ' ' ∨ c = '\n' ∨ c = '\r' ∨ c = '\t' := hc.imp_right .inl
    rw [List.cons_append, skipSpace, if_pos hspace]
    exact ih hrest

theorem skipSpace_cons {c : Char} (hc : ¬ (c = ' ' ∨ c = '\n' ∨ c = '\r' ∨ c = '\t'))
    (text : List Char) : skipSpace (c :: text) = c :: text := by
  rw [skipSpace, if_neg hc]

theorem skipSpace_idem (text : List Char) : skipSpace (skipSpace text) = skipSpace text := by
  induction text with
  | nil => rfl
  | cons c text ih =>
    by_cases hc : c = ' ' ∨ c = '\n' ∨ c = '\r' ∨ c = '\t'
    · rw [skipSpace, if_pos hc]
      exact ih
    · rw [skipSpace_cons hc, skipSpace_cons hc]

/-- White space in front of a value makes no difference. -/
theorem readValue_skipSpace (fuel : Nat) (text : List Char) :
    readValue fuel (skipSpace text) = readValue fuel text := by
  cases fuel with
  | zero => rfl
  | succ fuel => simp only [readValue, skipSpace_idem]

/-! ## Layouts -/

/-- The white space of a way to write values: behind an opening bracket, behind a comma and before
    a closing bracket, at each depth of nesting. -/
structure Layout where
  first : Nat → List Char
  next : Nat → List Char
  last : Nat → List Char
  blank_first : ∀ depth, Blank (first depth)
  blank_next : ∀ depth, Blank (next depth)
  blank_last : ∀ depth, Blank (last depth)

namespace Layout

variable {l : Layout}

mutual

/-- A value in a layout. -/
def write (l : Layout) (depth : Nat) : Json → List Char
  | .null => "null".toList
  | .bool true => "true".toList
  | .bool false => "false".toList
  | .int n => writeInt n
  | .float x => writeFloat x
  | .string s => writeString s
  | .array [] => ['[', ']']
  | .array (v :: vs) => '[' :: (l.first depth ++ (l.write (depth + 1) v ++ l.writeItems depth vs))
  | .object [] => ['{', '}']
  | .object ((k, v) :: fs) =>
    '{' :: (l.first depth ++
      (writeString k ++ ':' :: ' ' :: (l.write (depth + 1) v ++ l.writeFields depth fs)))

/-- The further items of an array, and its end. -/
def writeItems (l : Layout) (depth : Nat) : List Json → List Char
  | [] => l.last depth ++ [']']
  | v :: vs => ',' :: (l.next depth ++ (l.write (depth + 1) v ++ l.writeItems depth vs))

/-- The further fields of an object, and its end. -/
def writeFields (l : Layout) (depth : Nat) : List (String × Json) → List Char
  | [] => l.last depth ++ ['}']
  | (k, v) :: fs =>
    ',' :: (l.next depth ++
      (writeString k ++ ':' :: ' ' :: (l.write (depth + 1) v ++ l.writeFields depth fs)))

end

theorem blank_nil : Blank [] := by simp [Blank]

theorem blank_lineStart (depth : Nat) : Blank (lineStart depth) := by
  intro c hc
  obtain rfl | hc := List.mem_cons.mp hc
  · exact .inr rfl
  · exact .inl (List.eq_of_mem_replicate hc)

/-- The layout on one line. -/
def line : Layout where
  first _ := []
  next _ := [' ']
  last _ := []
  blank_first _ := blank_nil
  blank_next _ := by simp [Blank]
  blank_last _ := blank_nil

/-- The layout with a line for each item. -/
def lines : Layout where
  first depth := lineStart (depth + 1)
  next depth := lineStart (depth + 1)
  last depth := lineStart depth
  blank_first depth := blank_lineStart (depth + 1)
  blank_next depth := blank_lineStart (depth + 1)
  blank_last depth := blank_lineStart depth

mutual

theorem write_line (depth : Nat) : ∀ v, line.write depth v = Json.write v
  | .null | .bool true | .bool false | .int _ | .float _ | .string _ | .array [] | .object [] => rfl
  | .array (v :: vs) => by
    rw [write, Json.write, write_line (depth + 1) v, writeItems_line depth vs]
    rfl
  | .object ((k, v) :: fs) => by
    rw [write, Json.write, write_line (depth + 1) v, writeFields_line depth fs]
    simp [line]

theorem writeItems_line (depth : Nat) : ∀ vs, line.writeItems depth vs = Json.writeItems vs
  | [] => rfl
  | v :: vs => by
    rw [writeItems, Json.writeItems, write_line (depth + 1) v, writeItems_line depth vs]
    rfl

theorem writeFields_line (depth : Nat) : ∀ fs, line.writeFields depth fs = Json.writeFields fs
  | [] => rfl
  | (k, v) :: fs => by
    rw [writeFields, Json.writeFields, write_line (depth + 1) v, writeFields_line depth fs]
    simp [line]

end

mutual

theorem write_lines (depth : Nat) : ∀ v, lines.write depth v = Json.writeLines depth v
  | .null | .bool true | .bool false | .int _ | .float _ | .string _ | .array [] | .object [] => rfl
  | .array (v :: vs) => by
    rw [write, Json.writeLines, write_lines (depth + 1) v, writeItems_lines depth vs]
    simp [lines]
  | .object ((k, v) :: fs) => by
    rw [write, Json.writeLines, write_lines (depth + 1) v, writeFields_lines depth fs]
    simp [lines]

theorem writeItems_lines (depth : Nat) :
    ∀ vs, lines.writeItems depth vs = Json.writeItemLines depth vs
  | [] => rfl
  | v :: vs => by
    rw [writeItems, Json.writeItemLines, write_lines (depth + 1) v, writeItems_lines depth vs]
    simp [lines]

theorem writeFields_lines (depth : Nat) :
    ∀ fs, lines.writeFields depth fs = Json.writeFieldLines depth fs
  | [] => rfl
  | (k, v) :: fs => by
    rw [writeFields, Json.writeFieldLines, write_lines (depth + 1) v, writeFields_lines depth fs]
    simp [lines]

end

end Layout

/-! ## Reading one token at a time -/

section Tokens

variable {fuel : Nat} {text r : List Char} {v : Json}

/-- What follows an item of an array: its end, or further items. -/
def readItemsTail (fuel : Nat) (text : List Char) : Option (List Json × List Char) :=
  match skipSpace text with
  | ']' :: r => some ([], r)
  | ',' :: r => readItems fuel r
  | _ => none

/-- What follows a field of an object: its end, or further fields. -/
def readFieldsTail (fuel : Nat) (text : List Char) : Option (List (String × Json) × List Char) :=
  match skipSpace text with
  | '}' :: r => some ([], r)
  | ',' :: r => readFields fuel r
  | _ => none

theorem readItems_succ (hv : readValue fuel text = some (v, r)) :
    readItems (fuel + 1) text = (readItemsTail fuel r).map fun (vs, r) => (v :: vs, r) := by
  rw [readItems, hv]
  simp only [Option.bind_eq_bind, Option.bind_some]
  split
  case h_1 heq => simp only [readItemsTail, heq]; rfl
  case h_2 more heq =>
    simp only [readItemsTail, heq]
    cases readItems fuel more <;> rfl
  case h_3 hend hmore =>
    have hnone : readItemsTail fuel r = none := by
      rw [readItemsTail]
      split
      case h_1 heq => cases hend _ heq
      case h_2 heq => cases hmore _ heq
      case h_3 => rfl
    rw [hnone]
    rfl

/-- White space in front of a field makes no difference. -/
theorem readFields_blank {gap : List Char} (hgap : Blank gap) (fuel : Nat) (text : List Char) :
    readFields fuel (gap ++ text) = readFields fuel text := by
  cases fuel with
  | zero => rfl
  | succ fuel => simp only [readFields, skipSpace_append hgap]

theorem readFields_succ (k : String) (hv : readValue fuel text = some (v, r)) :
    readFields (fuel + 1) (writeString k ++ ':' :: ' ' :: text) =
      (readFieldsTail fuel r).map fun (fs, r) => ((k, v) :: fs, r) := by
  have hquote : skipSpace (writeString k ++ ':' :: ' ' :: text) =
      '"' :: (writeChars k.toList ++ '"' :: ':' :: ' ' :: text) := by
    rw [writeString, List.cons_append, List.cons_append, skipSpace_cons (by decide),
      List.append_assoc]
    rfl
  have hspaced : readValue fuel (' ' :: text) = some (v, r) := by
    rw [← readValue_skipSpace, skipSpace, if_pos (.inl rfl), readValue_skipSpace, hv]
  rw [readFields, hquote]
  simp only [readString_writeChars, Option.bind_eq_bind, Option.bind_some]
  rw [skipSpace_cons (by decide)]
  simp only [hspaced, Option.bind_some]
  split
  case h_1 heq => simp only [readFieldsTail, heq]; rfl
  case h_2 more heq =>
    simp only [readFieldsTail, heq]
    cases readFields fuel more <;> rfl
  case h_3 hend hmore =>
    have hnone : readFieldsTail fuel r = none := by
      rw [readFieldsTail]
      split
      case h_1 heq => cases hend _ heq
      case h_2 heq => cases hmore _ heq
      case h_3 => rfl
    rw [hnone]
    rfl

theorem readValue_closing (fuel : Nat) (text : List Char) : readValue fuel (']' :: text) = none := by
  cases fuel with
  | zero => rfl
  | succ fuel => simp [readValue, skipSpace, readNumber, spanDigits]

/-- An array whose first item is read goes on behind that. -/
theorem readValue_bracket (hv : readValue fuel text = some (v, r)) :
    readValue (fuel + 2) ('[' :: text) =
      (readItemsTail fuel r).map fun (vs, r) => (.array (v :: vs), r) := by
  have hspaced : readValue fuel (skipSpace text) = some (v, r) := by rw [readValue_skipSpace, hv]
  have hitem : ∀ rest, skipSpace text ≠ ']' :: rest := by
    intro rest hclosing
    rw [hclosing, readValue_closing] at hspaced
    cases hspaced
  rw [readValue, skipSpace_cons (by decide)]
  simp only
  rw [readItems_succ hspaced]
  cases readItemsTail fuel r <;> rfl

/-- An object whose first field is read goes on behind that. -/
theorem readValue_brace {gap : List Char} (hgap : Blank gap) (k : String)
    (hv : readValue fuel text = some (v, r)) :
    readValue (fuel + 2) ('{' :: (gap ++ (writeString k ++ ':' :: ' ' :: text))) =
      (readFieldsTail fuel r).map fun (fs, r) => (.object ((k, v) :: fs), r) := by
  have hquote : skipSpace (gap ++ (writeString k ++ ':' :: ' ' :: text)) =
      writeString k ++ ':' :: ' ' :: text := by
    rw [skipSpace_append hgap, writeString, List.cons_append, List.cons_append,
      skipSpace_cons (by decide)]
  rw [readValue, skipSpace_cons (by decide)]
  simp only [hquote]
  split
  case h_1 rest heq => simp [writeString] at heq
  case h_2 =>
    rw [readFields_succ k hv]
    cases readFieldsTail fuel r <;> rfl

end Tokens

/-! ## Values -/

/-- A text that starts with a digit is a number. -/
theorem readValue_digit {d : Char} (hd : d.isDigit = true) (fuel : Nat) (text : List Char) :
    readValue (fuel + 1) (d :: text) = readNumber false (d :: text) ∧
      readValue (fuel + 1) ('-' :: d :: text) = readNumber true (d :: text) := by
  have hother {c : Char} (hc : c.isDigit = false) : d ≠ c := by
    rintro rfl
    rw [hd] at hc
    cases hc
  have hword : d ≠ 'n' ∧ d ≠ 't' ∧ d ≠ 'f' ∧ d ≠ 'I' ∧ d ≠ 'N' := by
    refine ⟨hother ?_, hother ?_, hother ?_, hother ?_, hother ?_⟩ <;> decide
  have hmark : d ≠ '"' ∧ d ≠ '[' ∧ d ≠ '{' ∧ d ≠ '-' := by
    refine ⟨hother ?_, hother ?_, hother ?_, hother ?_⟩ <;> decide
  have hblank : ¬ (d = ' ' ∨ d = '\n' ∨ d = '\r' ∨ d = '\t') := by
    rintro (h | h | h | h)
    all_goals exact hother (by decide) h
  constructor
  · rw [readValue, skipSpace_cons hblank]
    simp [hword, hmark]
  · rw [readValue, skipSpace_cons (by decide)]
    simp [hword]

theorem readValue_writeInt (fuel : Nat) (n : Int) {rest : List Char} (hrest : EndsNumber rest) :
    readValue (fuel + 1) (writeInt n ++ rest) = some (.int n, rest) := by
  have hread (negative : Bool) := readNumber_toDigits negative n.natAbs hrest
  cases hdigits : Nat.toDigits 10 n.natAbs with
  | nil => exact absurd hdigits Nat.toDigits_ne_nil
  | cons d ds =>
    have hdigit : d.isDigit = true :=
      Nat.isDigit_of_mem_toDigits (b := 10) (by decide) (by decide) (hdigits ▸ List.mem_cons_self)
    obtain ⟨hpositive, hnegative⟩ := readValue_digit hdigit fuel (ds ++ rest)
    rw [hdigits] at hread
    unfold writeInt
    split
    case isTrue hneg =>
      have hvalue : -(n.natAbs : Int) = n := by omega
      rw [hdigits, List.cons_append, List.cons_append, hnegative, ← List.cons_append, hread true,
        if_pos rfl, hvalue]
    case isFalse hpos =>
      have hvalue : (n.natAbs : Int) = n := by omega
      rw [hdigits, List.cons_append, hpositive, ← List.cons_append, hread false,
        if_neg Bool.false_ne_true, hvalue]

theorem readValue_writeFloat (fuel : Nat) (x : Float) {rest : List Char}
    (hrest : EndsNumber rest) :
    readValue (fuel + 1) (writeFloat x ++ rest) = some (.float x, rest) := by
  unfold writeFloat
  split
  case h_1 b hread =>
    obtain ⟨shift, hshift, hbits⟩ := Decimal.shifted_of_read hread
    obtain ⟨c, cs, htext, hc, hnumber⟩ := readNumber_text hshift hrest
    obtain ⟨hpositive, hnegative⟩ := readValue_digit hc fuel (cs ++ rest)
    rw [← Decimal.ofMagnitude_of_toBits hbits, htext]
    cases b.negative with
    | true => exact hnegative.trans (hnumber true)
    | false => exact hpositive.trans (hnumber false)
  case h_2 hread =>
    rw [← Decimal.infinity_of_read hread]
    rfl
  case h_3 hread =>
    rw [← Decimal.infinity_of_read hread]
    rfl
  case h_4 hread =>
    rw [← Decimal.notNumber_of_read hread]
    rfl

theorem readValue_writeString (fuel : Nat) (s : String) (rest : List Char) :
    readValue (fuel + 1) (writeString s ++ rest) = some (.string s, rest) := by
  rw [writeString, List.cons_append, List.cons_append, readValue, skipSpace_cons (by decide)]
  simp only [List.append_assoc, List.singleton_append, readString_writeChars, Option.map_some]

namespace Layout

variable (l : Layout) (depth : Nat)

theorem endsNumber_append {gap rest : List Char} (hgap : Blank gap) (hrest : EndsNumber rest) :
    EndsNumber (gap ++ rest) := by
  cases gap with
  | nil => exact hrest
  | cons c gap =>
    obtain rfl | rfl := hgap c List.mem_cons_self
    · exact endsNumber_cons (by decide) _
    · exact endsNumber_cons (by decide) _

theorem endsNumber_writeItems (vs : List Json) (rest : List Char) :
    EndsNumber (l.writeItems depth vs ++ rest) := by
  cases vs with
  | nil =>
    rw [writeItems, List.append_assoc]
    exact endsNumber_append (l.blank_last depth) (endsNumber_cons (by decide) rest)
  | cons v vs => exact endsNumber_cons (by decide) _

theorem endsNumber_writeFields (fs : List (String × Json)) (rest : List Char) :
    EndsNumber (l.writeFields depth fs ++ rest) := by
  cases fs with
  | nil =>
    rw [writeFields, List.append_assoc]
    exact endsNumber_append (l.blank_last depth) (endsNumber_cons (by decide) rest)
  | cons f fs => exact endsNumber_cons (by decide) _

mutual

/-- A value is read back from its text, if nothing behind it goes on with a number. -/
theorem readValue_write (depth : Nat) : ∀ (v : Json) {fuel : Nat}
    {rest : List Char}, 2 * (l.write depth v).length < fuel → EndsNumber rest →
      readValue fuel (l.write depth v ++ rest) = some (v, rest)
  | .null, fuel + 1, rest, _, _ => rfl
  | .bool true, fuel + 1, rest, _, _ => rfl
  | .bool false, fuel + 1, rest, _, _ => rfl
  | .int n, fuel + 1, rest, _, hrest => readValue_writeInt fuel n hrest
  | .float x, fuel + 1, rest, _, hrest => readValue_writeFloat fuel x hrest
  | .string s, fuel + 1, rest, _, _ => readValue_writeString fuel s rest
  | .array [], fuel + 1, rest, _, _ => rfl
  | .object [], fuel + 1, rest, _, _ => rfl
  | .array (v :: vs), fuel, rest, hfuel, _ => by
    simp only [write, List.length_cons, List.length_append] at hfuel
    obtain ⟨fuel, rfl⟩ : ∃ k, fuel = k + 2 := ⟨fuel - 2, by omega⟩
    have hitem : readValue fuel (l.first depth ++ (l.write (depth + 1) v ++
        (l.writeItems depth vs ++ rest))) = some (v, l.writeItems depth vs ++ rest) := by
      rw [← readValue_skipSpace, skipSpace_append (l.blank_first depth), readValue_skipSpace]
      exact readValue_write (depth + 1) v (by omega) (l.endsNumber_writeItems depth vs rest)
    have htail := readItemsTail_write depth vs fuel rest (by omega)
    simp only [write, List.cons_append, List.append_assoc]
    rw [readValue_bracket hitem, htail]
    rfl
  | .object ((k, v) :: fs), fuel, rest, hfuel, _ => by
    simp only [write, List.length_cons, List.length_append] at hfuel
    obtain ⟨fuel, rfl⟩ : ∃ k, fuel = k + 2 := ⟨fuel - 2, by omega⟩
    have hfield : readValue fuel (l.write (depth + 1) v ++ (l.writeFields depth fs ++ rest)) =
        some (v, l.writeFields depth fs ++ rest) :=
      readValue_write (depth + 1) v (by omega) (l.endsNumber_writeFields depth fs rest)
    have htail := readFieldsTail_write depth fs fuel rest (by omega)
    simp only [write, List.cons_append, List.append_assoc]
    rw [readValue_brace (l.blank_first depth) k hfield, htail]
    rfl

/-- The further items of an array are read back up to its end. -/
theorem readItemsTail_write (depth : Nat) : ∀ (vs : List Json) (fuel : Nat)
    (rest : List Char), 2 * (l.writeItems depth vs).length < fuel →
      readItemsTail fuel (l.writeItems depth vs ++ rest) = some (vs, rest)
  | [], fuel, rest, _ => by
    rw [writeItems, List.append_assoc, readItemsTail, skipSpace_append (l.blank_last depth)]
    rfl
  | v :: vs, fuel, rest, hfuel => by
    simp only [writeItems, List.length_cons, List.length_append] at hfuel
    obtain ⟨fuel, rfl⟩ : ∃ k, fuel = k + 1 := ⟨fuel - 1, by omega⟩
    have hitem : readValue fuel (l.next depth ++ (l.write (depth + 1) v ++
        (l.writeItems depth vs ++ rest))) = some (v, l.writeItems depth vs ++ rest) := by
      rw [← readValue_skipSpace, skipSpace_append (l.blank_next depth), readValue_skipSpace]
      exact readValue_write (depth + 1) v (by omega) (l.endsNumber_writeItems depth vs rest)
    have htail := readItemsTail_write depth vs fuel rest (by omega)
    simp only [writeItems, List.cons_append, List.append_assoc]
    rw [readItemsTail, skipSpace_cons (by decide)]
    simp only
    rw [readItems_succ hitem, htail]
    rfl

/-- The further fields of an object are read back up to its end. -/
theorem readFieldsTail_write (depth : Nat) : ∀ (fs : List (String × Json)) (fuel : Nat)
    (rest : List Char), 2 * (l.writeFields depth fs).length < fuel →
      readFieldsTail fuel (l.writeFields depth fs ++ rest) = some (fs, rest)
  | [], fuel, rest, _ => by
    rw [writeFields, List.append_assoc, readFieldsTail, skipSpace_append (l.blank_last depth)]
    rfl
  | (k, v) :: fs, fuel, rest, hfuel => by
    simp only [writeFields, List.length_cons, List.length_append] at hfuel
    obtain ⟨fuel, rfl⟩ : ∃ k, fuel = k + 1 := ⟨fuel - 1, by omega⟩
    have hfield : readValue fuel (l.write (depth + 1) v ++ (l.writeFields depth fs ++ rest)) =
        some (v, l.writeFields depth fs ++ rest) :=
      readValue_write (depth + 1) v (by omega) (l.endsNumber_writeFields depth fs rest)
    have htail := readFieldsTail_write depth fs fuel rest (by omega)
    simp only [writeFields, List.cons_append, List.append_assoc]
    rw [readFieldsTail, skipSpace_cons (by decide)]
    simp only
    rw [readFields_blank (l.blank_next depth), readFields_succ k hfield, htail]
    rfl

end

end Layout

/-! ## Documents -/

/-- A document is read back from a text with nothing but white space behind it. -/
theorem read?_write (l : Layout) (v : Json) {gap : List Char} (hgap : Blank gap) :
    read? (l.write 0 v ++ gap) = some v := by
  have hend : EndsNumber gap := by
    have happend := Layout.endsNumber_append hgap endsNumber_nil
    rwa [List.append_nil] at happend
  have hskip : skipSpace gap = [] := by
    have happend := skipSpace_append hgap []
    rwa [List.append_nil] at happend
  have hfuel : 2 * (l.write 0 v).length < 2 * (l.write 0 v ++ gap).length + 2 := by
    rw [List.length_append]
    omega
  rw [read?, l.readValue_write 0 v hfuel hend]
  simp [hskip]

/-- An indented value is read back, with the end of its last line or without. -/
theorem ofText?_toLines (v : Json) :
    ofText? v.toLines = some v ∧ ofText? (v.toLines ++ "\n") = some v := by
  constructor
  · have hread := read?_write .lines v Layout.blank_nil
    rw [List.append_nil, Layout.write_lines] at hread
    rwa [ofText?, toLines, String.toList_ofList]
  · have hnewline : Blank ['\n'] := by simp [Blank]
    have hread := read?_write .lines v hnewline
    rw [Layout.write_lines] at hread
    rwa [ofText?, toLines, String.toList_append, String.toList_ofList]

/-! ## One line -/

mutual

/-- A value on one line is on one line. -/
theorem newline_not_mem_write : ∀ v : Json, '\n' ∉ Json.write v
  | .null | .bool true | .bool false | .array [] | .object [] => by decide
  | .int n => newline_not_mem_writeInt n
  | .float x => newline_not_mem_writeFloat x
  | .string s => newline_not_mem_writeString s
  | .array (v :: vs) => by
    simp [Json.write, newline_not_mem_write v, newline_not_mem_writeItems vs]
  | .object ((k, v) :: fs) => by
    simp [Json.write, newline_not_mem_writeString k, newline_not_mem_write v,
      newline_not_mem_writeFields fs]

theorem newline_not_mem_writeItems : ∀ vs : List Json, '\n' ∉ Json.writeItems vs
  | [] => by decide
  | v :: vs => by
    simp [Json.writeItems, newline_not_mem_write v, newline_not_mem_writeItems vs]

theorem newline_not_mem_writeFields : ∀ fs : List (String × Json), '\n' ∉ Json.writeFields fs
  | [] => by decide
  | (k, v) :: fs => by
    simp [Json.writeFields, newline_not_mem_writeString k, newline_not_mem_write v,
      newline_not_mem_writeFields fs]

end

end Launcher.Json
