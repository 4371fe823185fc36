import Switchboard.Json.Reader
import Switchboard.Json.Writer

/-!
# Reading back what was written

Nothing in a written value looks like the end of another one, so the reader takes exactly the
characters of the value and leaves what follows. `parse_render` says that every value whose
strings are texts is read back from its text.
-/

namespace Switchboard.Json

/-- Every string in the value is a text. -/
def isTextual : Json → Bool
  | loose .. => false
  | arr vs => items vs
  | obj ms => members ms
  | _ => true
where
  items : List Json → Bool
    | [] => true
    | v :: vs => isTextual v && items vs
  members : List (String × Json) → Bool
    | [] => true
    | (_, v) :: ms => isTextual v && members ms

/-- What may follow a value: a separator, a closing bracket or nothing. -/
def Ends (rest : List Char) : Prop :=
  ∀ c ∈ rest.head?, c = ',' ∨ c = ']' ∨ c = '\x7d'

theorem ends_nil : Ends [] := by
  intro c there
  cases there

theorem ends_writeItems (vs : List Json) (rest : List Char) :
    Ends (write.writeItems vs ++ rest) := by
  cases vs <;> simp [Ends, write.writeItems]

theorem ends_writeMembers (ms : List (String × Json)) (rest : List Char) :
    Ends (write.writeMembers ms ++ rest) := by
  cases ms <;> simp [Ends, write.writeMembers]

/-! ### Numbers -/

theorem takeDigits_toDigits (n : Nat) {rest : List Char} (ends : ∀ c ∈ rest.head?, ¬c.isDigit) :
    Decimal.takeDigits (Nat.toDigits 10 n ++ rest) = (Nat.toDigits 10 n, rest) := by
  have digits : ∀ c ∈ Nat.toDigits 10 n, c.isDigit := fun c there =>
    Nat.isDigit_of_mem_toDigits (by decide) (by decide) there
  have stop : rest.takeWhile Char.isDigit = [] ∧ rest.dropWhile Char.isDigit = rest := by
    cases rest with
    | nil => exact ⟨rfl, rfl⟩
    | cons c rest =>
      have other := ends c rfl
      simp [other]
  rw [Decimal.takeDigits, List.takeWhile_append_of_pos digits, List.dropWhile_append_of_pos digits,
    stop.1, stop.2, List.append_nil]

theorem toDigits_cons (n : Nat) : ∃ d ds, Nat.toDigits 10 n = d :: ds ∧ d.isDigit := by
  obtain ⟨d, ds, same⟩ := List.exists_cons_of_ne_nil (Nat.toDigits_ne_nil (n := n) (b := 10))
  have first : d ∈ Nat.toDigits 10 n := same ▸ List.mem_cons_self
  exact ⟨d, ds, same, Nat.isDigit_of_mem_toDigits (by decide) (by decide) first⟩

theorem value_toDigits (n : Nat) : Decimal.value (Nat.toDigits 10 n) = n := by
  rw [Decimal.value, ← Nat.ofDigitChars_eq_foldl, Nat.ofDigitChars_ten_toDigits]

theorem head_toDigits {n : Nat} (positive : 0 < n) : (Nat.toDigits 10 n).head? ≠ some '0' := by
  have single : ∀ d < 10, 0 < d → Nat.digitChar d ≠ '0' := by decide
  induction n using Nat.strongRecOn with
  | _ n ih =>
    rw [Nat.toDigits_eq_if (by decide)]
    split
    · rename_i small
      simpa using single n small positive
    · rename_i large
      obtain ⟨d, ds, digits⟩ :=
        List.exists_cons_of_ne_nil (Nat.toDigits_ne_nil (n := n / 10) (b := 10))
      have first := ih (n / 10) (by omega) (by omega)
      rw [digits] at first ⊢
      exact first

/-- Digits of a number have no leading zero. -/
theorem plain_toDigits (n : Nat) :
    (((Nat.toDigits 10 n).head? = some '0' && (Nat.toDigits 10 n).length ≠ 1) : Bool) = false := by
  rcases Nat.eq_zero_or_pos n with rfl | positive
  · decide
  · simp [head_toDigits positive]

theorem readFraction_of_ends {rest : List Char} (ends : ∀ c ∈ rest.head?, c ≠ '.') :
    readFraction rest = some (none, rest) := by
  cases rest with
  | nil => rfl
  | cons c rest =>
    have other := ends c rfl
    unfold readFraction
    split
    · rename_i same
      exact absurd (List.cons.inj same).1 other
    · rfl

theorem readExponent_of_ends {rest : List Char} (ends : Ends rest) :
    readExponent rest = some (none, rest) := by
  cases rest with
  | nil => rfl
  | cons c rest => rcases ends c rfl with rfl | rfl | rfl <;> rfl

theorem Ends.not_digit {rest : List Char} (ends : Ends rest) : ∀ c ∈ rest.head?, ¬c.isDigit := by
  intro c there
  rcases ends c there with rfl | rfl | rfl <;> decide

theorem Ends.not_point {rest : List Char} (ends : Ends rest) : ∀ c ∈ rest.head?, c ≠ '.' := by
  intro c there
  rcases ends c there with rfl | rfl | rfl <;> decide

theorem readNumber_toDigits (negative : Bool) (n : Nat) {rest after : List Char}
    {exponent : Option Int} (whole : ∀ c ∈ rest.head?, ¬c.isDigit)
    (fraction : readFraction rest = some (none, rest))
    (power : readExponent rest = some (exponent, after)) :
    readNumber negative (Nat.toDigits 10 n ++ rest) =
      some (match exponent with
        | none => if negative then (if n = 0 then .decimal true 0 0 else .int (-n)) else .int n
        | some e => .decimal negative n e, after) := by
  have plain := plain_toDigits n
  have value := value_toDigits n
  have some_digit := Nat.toDigits_ne_nil (n := n) (b := 10)
  rw [readNumber, takeDigits_toDigits n whole]
  generalize Nat.toDigits 10 n = ds at plain value some_digit
  cases ds with
  | nil => exact absurd rfl some_digit
  | cons d ds =>
    simp only [plain, fraction]
    cases exponent <;> cases negative <;> simp [power, value]

/-- A digit is no sign, no bracket, no quote and no letter. -/
theorem ne_of_isDigit {d c : Char} (digit : d.isDigit) (other : c.isDigit = false) : d ≠ c := by
  rintro rfl
  exact absurd digit (by simp [other])

theorem takeSign_digit {d : Char} (cs : List Char) (digit : d.isDigit) :
    takeSign (d :: cs) = (false, d :: cs) := by
  unfold takeSign
  split
  · rename_i same
    exact absurd (List.cons.inj same).1 (ne_of_isDigit digit (by decide))
  · rename_i same
    exact absurd (List.cons.inj same).1 (ne_of_isDigit digit (by decide))
  · rfl

theorem readExponent_writeInt (e : Int) {rest : List Char} (ends : Ends rest) :
    readExponent ('e' :: (writeInt e ++ rest)) = some (some e, rest) := by
  have taken := takeDigits_toDigits e.natAbs ends.not_digit
  have value := value_toDigits e.natAbs
  obtain ⟨d, ds, digits, digit⟩ := toDigits_cons e.natAbs
  rw [digits, List.cons_append] at taken
  rw [digits] at value
  unfold writeInt
  rw [digits]
  split
  · rename_i negative
    have sign : takeSign ('-' :: d :: (ds ++ rest)) = (true, d :: (ds ++ rest)) := rfl
    have same : -(e.natAbs : Int) = e := by omega
    simp only [readExponent, List.cons_append, sign, taken, value, decide_true, Bool.true_or,
      if_true]
    rw [same]
  · rename_i positive
    have sign := takeSign_digit (ds ++ rest) digit
    have same : (e.natAbs : Int) = e := by omega
    simp only [readExponent, List.cons_append, sign, taken, value, decide_true, Bool.true_or,
      if_true, Bool.false_eq_true, if_false]
    rw [same]

/-! ### Values -/

theorem skipSpaces_cons {c : Char} (cs : List Char) (ink : isSpace c = false) :
    skipSpaces (c :: cs) = c :: cs :=
  List.dropWhile_cons_of_neg (by simp [ink])

theorem isSpace_of_isDigit {d : Char} (digit : d.isDigit) : isSpace d = false := by
  have other {c : Char} (h : c.isDigit = false) : d ≠ c := ne_of_isDigit digit h
  simp [isSpace, other (c := ' ') (by decide), other (c := '\n') (by decide),
    other (c := '\r') (by decide), other (c := '\t') (by decide)]

theorem readValue_digit (fuel : Nat) {d : Char} (cs : List Char) (digit : d.isDigit) :
    readValue (fuel + 1) (d :: cs) = readNumber false (d :: cs) := by
  rw [readValue, skipSpaces_cons cs (isSpace_of_isDigit digit)]
  split
  case h_8 => rfl
  all_goals
    rename_i same
    exact absurd (List.cons.inj same).1 (ne_of_isDigit digit (by decide))

theorem readValue_minus (fuel : Nat) (cs : List Char) :
    readValue (fuel + 1) ('-' :: cs) = readNumber true cs := by
  rw [readValue, skipSpaces_cons cs (by decide)]
  rfl

theorem readValue_writeInt (fuel : Nat) (n : Int) {rest : List Char} (ends : Ends rest) :
    readValue (fuel + 1) (writeInt n ++ rest) = some (.int n, rest) := by
  have read (negative) := readNumber_toDigits negative n.natAbs ends.not_digit
    (readFraction_of_ends ends.not_point) (readExponent_of_ends ends)
  obtain ⟨d, ds, digits, digit⟩ := toDigits_cons n.natAbs
  unfold writeInt
  split
  · rename_i negative
    have absolute : -(n.natAbs : Int) = n := by omega
    rw [List.cons_append, readValue_minus, read]
    simp only [if_pos, if_neg (show n.natAbs ≠ 0 by omega), absolute]
  · rename_i positive
    rw [digits, List.cons_append, readValue_digit fuel _ digit, ← List.cons_append, ← digits, read]
    simp
    omega

theorem readValue_decimal (fuel : Nat) (negative : Bool) (m : Nat) (e : Int) {rest : List Char}
    (ends : Ends rest) :
    readValue (fuel + 1) (write (.decimal negative m e) ++ rest) =
      some (.decimal negative m e, rest) := by
  have read : readNumber negative (Nat.toDigits 10 m ++ 'e' :: (writeInt e ++ rest)) =
      some (.decimal negative m e, rest) :=
    readNumber_toDigits negative m (by simp) (readFraction_of_ends (by simp))
      (readExponent_writeInt e ends)
  obtain ⟨d, ds, digits, digit⟩ := toDigits_cons m
  cases negative
  · simp only [write, Bool.false_eq_true, if_false, List.nil_append, List.append_assoc,
      List.cons_append]
    rw [digits, List.cons_append, readValue_digit fuel _ digit, ← List.cons_append, ← digits, read]
  · simp only [write, if_true, List.append_assoc, List.cons_append, List.nil_append]
    rw [readValue_minus, read]

/-! ### Strings -/

/-- A character is written as an escape of its own, by its number or as it is. -/
theorem writeChar_cases (c : Char) :
    (∃ e, e ≠ 'u' ∧ simpleEscape e = some c ∧ writeChar c = ['\\', e]) ∨
      (c.toNat < 0x20 ∧ writeChar c = numberedEscape c.toNat) ∨
      (c ≠ '"' ∧ c ≠ '\\' ∧ 0x20 ≤ c.toNat ∧ writeChar c = [c]) := by
  by_cases quote : c = '"'
  · exact Or.inl ⟨'"', by decide, by simp [quote, simpleEscape], by simp [quote, writeChar]⟩
  by_cases slash : c = '\\'
  · exact Or.inl ⟨'\\', by decide, by simp [slash, simpleEscape], by simp [slash, writeChar]⟩
  by_cases control : c.toNat < 0x20
  · by_cases newline : c = '\n'
    · exact Or.inl ⟨'n', by decide, by simp [newline, simpleEscape], by simp [newline, writeChar]⟩
    by_cases back : c = '\r'
    · exact Or.inl ⟨'r', by decide, by simp [back, simpleEscape], by simp [back, writeChar]⟩
    by_cases tab : c = '\t'
    · exact Or.inl ⟨'t', by decide, by simp [tab, simpleEscape], by simp [tab, writeChar]⟩
    by_cases backspace : c.toNat = 8
    · have same : Char.ofNat 8 = c := by rw [← backspace, Char.ofNat_toNat]
      exact Or.inl ⟨'b', by decide, by simp [← same, simpleEscape], by simp [← same, writeChar]⟩
    by_cases feed : c.toNat = 12
    · have same : Char.ofNat 12 = c := by rw [← feed, Char.ofNat_toNat]
      exact Or.inl ⟨'f', by decide, by simp [← same, simpleEscape], by simp [← same, writeChar]⟩
    · exact Or.inr (Or.inl ⟨control, by
        simp [writeChar, quote, slash, control, newline, back, tab, backspace, feed]⟩)
  · exact Or.inr (Or.inr ⟨quote, slash, by omega, by simp [writeChar, quote, slash, control]⟩)

section

variable {cs after pieces : List Char} (read : readPieces cs = some (pieces.map .char, after))

include read

theorem readPieces_escape {e c : Char} (other : e ≠ 'u') (known : simpleEscape e = some c) :
    readPieces ('\\' :: e :: cs) = some ((c :: pieces).map .char, after) := by
  simp [readPieces, known, read, other]

theorem readPieces_numbered {c : Char} (control : c.toNat < 0x20) :
    readPieces (numberedEscape c.toNat ++ cs) = some ((c :: pieces).map .char, after) := by
  have number : hex4 '0' '0' (Bytes.nibble (c.toNat / 16)) (Bytes.nibble (c.toNat % 16)) =
      some c.toNat := by
    have zero : Bytes.nibble? '0' = some 0 := by decide
    have high := Bytes.nibble?_nibble (n := c.toNat / 16) (by omega)
    have low := Bytes.nibble?_nibble (n := c.toNat % 16) (by omega)
    simp [hex4, zero, high, low]
    omega
  have whole : unitPiece c.toNat = .char c := by
    simp [unitPiece, isHighHalf, isLowHalf, Char.ofNat_toNat]
    omega
  cases pieces <;> simp [numberedEscape, readPieces, number, read, whole]

theorem readPieces_plain {c : Char} (quote : c ≠ '"') (slash : c ≠ '\\')
    (printed : 0x20 ≤ c.toNat) :
    readPieces (c :: cs) = some ((c :: pieces).map .char, after) := by
  simp [readPieces, read, slash]
  omega

end

theorem readPieces_writeChars (cs rest : List Char) :
    readPieces (cs.flatMap writeChar ++ '"' :: rest) = some (cs.map .char, rest) := by
  induction cs with
  | nil => rfl
  | cons c cs ih =>
    rw [List.flatMap_cons, List.append_assoc]
    rcases writeChar_cases c with ⟨e, other, known, written⟩ | ⟨control, written⟩ |
      ⟨quote, slash, printed, written⟩
    · rw [written]
      exact readPieces_escape ih other known
    · rw [written]
      exact readPieces_numbered ih control
    · rw [written]
      exact readPieces_plain ih quote slash printed

theorem textOf_chars (cs : List Char) : textOf (cs.map .char) = some cs := by
  induction cs with
  | nil => rfl
  | cons c cs ih => simp [textOf, ih]

theorem readValue_writeString (fuel : Nat) (s : String) (rest : List Char) :
    readValue (fuel + 1) (writeString s ++ rest) = some (.str s, rest) := by
  have read := readPieces_writeChars s.toList rest
  simp [writeString, readValue, skipSpaces_cons _ (show isSpace '"' = false by decide), read,
    ofPieces, textOf_chars]

/-! ### Nesting -/

/-- The fuel bounds the written characters. -/
def Reads (fuel : Nat) : Prop :=
  (∀ v rest, isTextual v → (write v).length ≤ fuel → Ends rest →
    readValue fuel (write v ++ rest) = some (v, rest)) ∧
  (∀ vs rest, isTextual.items vs → (write.writeItems vs).length ≤ fuel →
    readItems fuel (write.writeItems vs ++ rest) = some (vs, rest)) ∧
  (∀ k v rest, isTextual v → (writeString k ++ ':' :: write v).length ≤ fuel → Ends rest →
    readMember fuel (writeString k ++ ':' :: (write v ++ rest)) = some ((k, v), rest)) ∧
  (∀ ms rest, isTextual.members ms → (write.writeMembers ms).length ≤ fuel →
    readMembers fuel (write.writeMembers ms ++ rest) = some (ms, rest))

/-- A written value starts with neither a space nor a closing bracket. -/
theorem write_cons {v : Json} (textual : isTextual v) :
    ∃ c cs, write v = c :: cs ∧ isSpace c = false ∧ c ≠ ']' := by
  have number (n : Nat) (more : List Char) :
      ∃ c cs, Nat.toDigits 10 n ++ more = c :: cs ∧ isSpace c = false ∧ c ≠ ']' := by
    obtain ⟨d, ds, digits, digit⟩ := toDigits_cons n
    exact ⟨d, ds ++ more, by rw [digits, List.cons_append], isSpace_of_isDigit digit,
      ne_of_isDigit digit (by decide)⟩
  cases v with
  | null => exact ⟨'n', _, rfl, by decide, by decide⟩
  | bool b => cases b <;> exact ⟨_, _, rfl, by decide, by decide⟩
  | int n =>
    rw [write, writeInt]
    split
    · exact ⟨'-', _, rfl, by decide, by decide⟩
    · simpa using number n.natAbs []
  | decimal negative m e =>
    cases negative
    · simpa [write] using number m ('e' :: writeInt e)
    · exact ⟨'-', _, rfl, by decide, by decide⟩
  | str s => exact ⟨'"', _, rfl, by decide, by decide⟩
  | loose bytes bare => simp [isTextual] at textual
  | arr vs => cases vs <;> exact ⟨'[', _, rfl, by decide, by decide⟩
  | obj ms => cases ms <;> exact ⟨'\x7b', _, rfl, by decide, by decide⟩

theorem readValue_write {fuel : Nat} (reads : Reads fuel) (v : Json) (rest : List Char)
    (textual : isTextual v) (room : (write v).length ≤ fuel + 1) (ends : Ends rest) :
    readValue (fuel + 1) (write v ++ rest) = some (v, rest) := by
  obtain ⟨values, items, member, members⟩ := reads
  cases v with
  | null => rfl
  | bool b => cases b <;> rfl
  | int n => exact readValue_writeInt fuel n ends
  | decimal negative m e => exact readValue_decimal fuel negative m e ends
  | str s => exact readValue_writeString fuel s rest
  | loose bytes bare => simp [isTextual] at textual
  | arr vs =>
    cases vs with
    | nil => rfl
    | cons v vs =>
      simp only [isTextual, isTextual.items, Bool.and_eq_true] at textual
      simp only [write, List.length_cons, List.length_append] at room
      have first := values v (write.writeItems vs ++ rest) textual.1 (by omega)
        (ends_writeItems vs rest)
      have others := items vs rest textual.2 (by omega)
      obtain ⟨c, cs, written, ink, other⟩ := write_cons textual.1
      rw [written, List.cons_append] at first
      simp only [write, List.cons_append, List.append_assoc, written, readValue,
        skipSpaces_cons _ (show isSpace '[' = false by decide), skipSpaces_cons _ ink]
      split
      · rename_i same
        exact absurd (List.cons.inj same).1 other
      · simp [first, others]
  | obj ms =>
    cases ms with
    | nil => rfl
    | cons m ms =>
      obtain ⟨k, v⟩ := m
      simp only [isTextual, isTextual.members, Bool.and_eq_true] at textual
      simp only [write, List.length_cons, List.length_append] at room
      have first := member k v (write.writeMembers ms ++ rest) textual.1
        (by simp only [List.length_cons, List.length_append]; omega) (ends_writeMembers ms rest)
      have others := members ms rest textual.2 (by omega)
      simp only [writeString, List.cons_append, List.append_assoc, List.nil_append] at first
      simp only [write, writeString, List.cons_append, List.append_assoc, List.nil_append,
        readValue, skipSpaces_cons _ (show isSpace '\x7b' = false by decide),
        skipSpaces_cons _ (show isSpace '"' = false by decide)]
      simp [first, others]

theorem readItems_write {fuel : Nat} (reads : Reads fuel) (vs : List Json) (rest : List Char)
    (textual : isTextual.items vs) (room : (write.writeItems vs).length ≤ fuel + 1) :
    readItems (fuel + 1) (write.writeItems vs ++ rest) = some (vs, rest) := by
  obtain ⟨values, items, -, -⟩ := reads
  cases vs with
  | nil => rfl
  | cons v vs =>
    simp only [isTextual.items, Bool.and_eq_true] at textual
    simp only [write.writeItems, List.length_cons, List.length_append] at room
    have first := values v (write.writeItems vs ++ rest) textual.1 (by omega)
      (ends_writeItems vs rest)
    have others := items vs rest textual.2 (by omega)
    simp [write.writeItems, readItems, skipSpaces_cons _ (show isSpace ',' = false by decide),
      first, others]

theorem readMember_write {fuel : Nat} (reads : Reads fuel) (k : String) (v : Json)
    (rest : List Char) (textual : isTextual v)
    (room : (writeString k ++ ':' :: write v).length ≤ fuel + 1) (ends : Ends rest) :
    readMember (fuel + 1) (writeString k ++ ':' :: (write v ++ rest)) = some ((k, v), rest) := by
  obtain ⟨values, -, -, -⟩ := reads
  simp only [List.length_append, List.length_cons] at room
  have value := values v rest textual (by omega) ends
  have name := readPieces_writeChars k.toList (':' :: (write v ++ rest))
  simp [writeString, readMember, skipSpaces_cons _ (show isSpace '"' = false by decide),
    skipSpaces_cons _ (show isSpace ':' = false by decide), name, textOf_chars, value]

theorem readMembers_write {fuel : Nat} (reads : Reads fuel) (ms : List (String × Json))
    (rest : List Char) (textual : isTextual.members ms)
    (room : (write.writeMembers ms).length ≤ fuel + 1) :
    readMembers (fuel + 1) (write.writeMembers ms ++ rest) = some (ms, rest) := by
  obtain ⟨-, -, member, members⟩ := reads
  cases ms with
  | nil => rfl
  | cons m ms =>
    obtain ⟨k, v⟩ := m
    simp only [isTextual.members, Bool.and_eq_true] at textual
    simp only [write.writeMembers, List.length_cons, List.length_append] at room
    have first := member k v (write.writeMembers ms ++ rest) textual.1
      (by simp only [List.length_cons, List.length_append]; omega) (ends_writeMembers ms rest)
    have others := members ms rest textual.2 (by omega)
    simp [write.writeMembers, readMembers, skipSpaces_cons _ (show isSpace ',' = false by decide),
      first, others]

theorem reads_all (fuel : Nat) : Reads fuel := by
  induction fuel with
  | zero =>
    refine ⟨?_, ?_, ?_, ?_⟩
    · intro v rest textual room
      obtain ⟨c, cs, written, -⟩ := write_cons textual
      simp [written] at room
    · intro vs rest textual room
      cases vs <;> simp [write.writeItems] at room
    · intro k v rest textual room
      simp at room
    · intro ms rest textual room
      cases ms <;> simp [write.writeMembers] at room
  | succ fuel ih =>
    exact ⟨readValue_write ih, readItems_write ih, readMember_write ih, readMembers_write ih⟩

/-- What is written is read back, whatever strings and numbers it holds. -/
theorem parse_render {v : Json} (textual : isTextual v) : parse v.render = some v := by
  have read := (reads_all ((write v).length + 1)).1 v [] textual (by omega) ends_nil
  rw [List.append_nil] at read
  simp [parse, parseChars, render, read, skipSpaces]

end Switchboard.Json
