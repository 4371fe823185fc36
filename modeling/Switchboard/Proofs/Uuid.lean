import Mathlib.Algebra.Group.Nat.Defs
import Switchboard.Uuid

/-!
# Reading back identifiers

An identifier is read back from the hyphenated form that it is written in.
-/

namespace Switchboard.Uuid

theorem length_digits (n v : Nat) : (digits n v).length = n := by
  induction n generalizing v with
  | zero => rfl
  | succ n ih => simp [digits, ih]

/-- Every digit is one of the sixteen. -/
theorem mem_digits {n v : Nat} {c : Char} (there : c ∈ digits n v) :
    ∃ d < 16, c = Bytes.nibble d := by
  induction n generalizing v with
  | zero => cases there
  | succ n ih =>
    rw [digits, List.mem_append, List.mem_singleton] at there
    rcases there with front | rfl
    · exact ih front
    · exact ⟨v % 16, by omega, rfl⟩

theorem foldlM_digits (n v start : Nat) :
    (digits n v).foldlM (fun n c => (Bytes.nibble? c).map (16 * n + ·)) start =
      some (start * 16 ^ n + v % 16 ^ n) := by
  induction n generalizing v start with
  | zero => simp [digits, Nat.mod_one]
  | succ n ih =>
    have last := Bytes.nibble?_nibble (n := v % 16) (by omega)
    rw [digits, List.foldlM_append, ih]
    have split : v % (16 * 16 ^ n) = v % 16 + 16 * (v / 16 % 16 ^ n) := Nat.mod_mul
    simp only [List.foldlM_cons, List.foldlM_nil, last, Option.map_some, Option.bind_eq_bind,
      Option.bind_some, Option.pure_def, Nat.pow_succ', split, Nat.mul_left_comm start]
    congr 1
    omega

theorem ofDigits?_digits (u : Uuid) : ofDigits? (digits 32 u.value.toNat) = some u := by
  have small : u.value.toNat < 16 ^ 32 := u.value.isLt
  rw [ofDigits?, if_pos (length_digits 32 u.value.toNat), foldlM_digits, Nat.mod_eq_of_lt small,
    Nat.zero_mul, Nat.zero_add]
  show some (⟨BitVec.ofNat 128 u.value.toNat⟩ : Uuid) = some u
  rw [BitVec.ofNat_toNat, BitVec.setWidth_eq]

theorem unhyphenate?_hyphenate {ds : List Char} (length : ds.length = 32) :
    unhyphenate? (hyphenate ds) = some ds := by
  have digits : (hyphenate ds).take 8 ++ ((hyphenate ds).drop 9).take 4 ++
      ((hyphenate ds).drop 14).take 4 ++ ((hyphenate ds).drop 19).take 4 ++
      (hyphenate ds).drop 24 = ds := by
    have next (n k : Nat) : (ds.drop n).take k ++ ds.drop (n + k) = ds.drop n := by
      rw [← List.drop_drop, List.take_append_drop]
    simp [hyphenate, List.drop_append, List.drop_take, length, next 16 4, next 12 4, next 8 4]
  simp only [unhyphenate?, digits, length, and_self, if_true]

theorem length_hyphenate {ds : List Char} (length : ds.length = 32) :
    (hyphenate ds).length = 36 := by
  simp [hyphenate, length]

theorem unwrapped_hyphenate (v : Nat) :
    unwrapped (hyphenate (digits 32 v)) = hyphenate (digits 32 v) := by
  have length := length_digits 32 v
  obtain ⟨c, cs, same⟩ := List.exists_cons_of_length_eq_add_one length
  obtain ⟨d, small, digit⟩ := mem_digits (n := 32) (v := v) (c := c) (by simp [same])
  have other : c ≠ '\x7b' ∧ c ≠ 'u' := by
    have all : ∀ d < 16, Bytes.nibble d ≠ '\x7b' ∧ Bytes.nibble d ≠ 'u' := by decide
    exact digit ▸ all d small
  rw [same, hyphenate]
  unfold unwrapped
  simp only [List.take_succ_cons, List.cons_append]
  split
  · rename_i brace
    exact absurd (List.cons.inj brace).1 other.1
  · rename_i urn
    exact absurd (List.cons.inj urn).1 other.2
  · rfl

/-- An identifier is read back from its text. -/
theorem ofText?_toText (u : Uuid) : ofText? u.toText = some u := by
  have length := length_digits 32 u.value.toNat
  simp [ofText?, toText, length_hyphenate length, unwrapped_hyphenate,
    unhyphenate?_hyphenate length, ofDigits?_digits]

end Switchboard.Uuid
