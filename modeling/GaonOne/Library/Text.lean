import Mathlib.Data.Nat.Digits.Defs
import Mathlib.Data.List.Basic
import Mathlib.Tactic.IntervalCases

/-! Fixed-width hexadecimal text, and text grouped by a separator. Both are
injective as long as the number fits and the separator is not a digit, so a key
built from an identifier names that identifier. -/
namespace Text

/-- The lower-case hexadecimal digit of a number below sixteen. -/
def hexDigit (n : Nat) : Char := if n < 10 then Char.ofNat (48 + n) else Char.ofNat (87 + n)

/-- The last `width` hexadecimal digits of a number, most significant first. -/
def hexDigits : Nat → Nat → List Char
  | 0, _ => []
  | width + 1, n => hexDigits width (n / 16) ++ [hexDigit (n % 16)]

/-- Groups of the given sizes, joined by a separator; what is left over is the
last group. -/
def grouped (separator : Char) : List Nat → List Char → List Char
  | [], text => text
  | size :: sizes, text => text.take size ++ separator :: grouped separator sizes (text.drop size)

/-- `text.replace(old, new)` for single characters. -/
def replace (old new : Char) (text : String) : String :=
  text.map fun c => if c = old then new else c

/-- `str.isspace`, and `\s` in a pattern. -/
def isSpace (c : Char) : Bool :=
  (9 ≤ c.toNat && c.toNat ≤ 13) || (28 ≤ c.toNat && c.toNat ≤ 32) ||
    [0x85, 0xa0, 0x1680, 0x2028, 0x2029, 0x202f, 0x205f, 0x3000].contains c.toNat ||
    (0x2000 ≤ c.toNat && c.toNat ≤ 0x200a)

/-- The zeros of the decimal digits, each followed by the other nine. -/
def decimalZeros : List Nat :=
  [0x30, 0x660, 0x6f0, 0x7c0, 0x966, 0x9e6, 0xa66, 0xae6, 0xb66, 0xbe6, 0xc66, 0xce6, 0xd66, 0xde6,
    0xe50, 0xed0, 0xf20, 0x1040, 0x1090, 0x17e0, 0x1810, 0x1946, 0x19d0, 0x1a80, 0x1a90, 0x1b50,
    0x1bb0, 0x1c40, 0x1c50, 0xa620, 0xa8d0, 0xa900, 0xa9d0, 0xa9f0, 0xaa50, 0xabf0, 0xff10, 0x104a0,
    0x10d30, 0x11066, 0x110f0, 0x11136, 0x111d0, 0x112f0, 0x11450, 0x114d0, 0x11650, 0x116c0, 0x11730,
    0x118e0, 0x11950, 0x11c50, 0x11d50, 0x11da0, 0x11f50, 0x16a60, 0x16ac0, 0x16b50, 0x1d7ce, 0x1d7d8,
    0x1d7e2, 0x1d7ec, 0x1d7f6, 0x1e140, 0x1e2f0, 0x1e4f0, 0x1e950, 0x1fbf0]

/-- `\d` in a pattern: a decimal digit of any script. -/
def isDecimal (c : Char) : Bool := decimalZeros.any fun first => first ≤ c.toNat && c.toNat ≤ first + 9

/-- `text.strip()`. -/
def strip (text : String) : String :=
  String.ofList ((text.toList.dropWhile isSpace).reverse.dropWhile isSpace).reverse

/-- `text.lower()`, of which only the ASCII letters are made out: the Kelvin sign and the capital I with
a dot are the only characters outside ASCII that give any. -/
def lower (text : String) : List Char :=
  text.toList.flatMap fun c =>
    if c.toNat = 0x212a then ['k'] else if c.toNat = 0x130 then ['i', Char.ofNat 0x307] else [c.toLower]

/-- `text[:limit]`. -/
def cut (limit : Nat) (text : String) : String := String.ofList (text.toList.take limit)

/-- A number below a hundred in two digits. -/
def twoDigits (n : Nat) : String :=
  String.ofList [Char.ofNat (48 + n / 10 % 10), Char.ofNat (48 + n % 10)]

theorem hexDigit_injective (left : m < 16) (right : n < 16) (same : hexDigit m = hexDigit n) :
    m = n := by
  interval_cases m <;> interval_cases n <;> first | rfl | (revert same; decide)

theorem hexDigit_ne (c : Char) (outside : ∀ n < 16, hexDigit n ≠ c) :
    c ∉ hexDigits width n := by
  induction width generalizing n with
  | zero => simp [hexDigits]
  | succ width ih =>
    simp only [hexDigits, List.mem_append, List.mem_singleton, not_or]
    exact ⟨ih, fun same => outside (n % 16) (Nat.mod_lt _ (by decide)) same.symm⟩

/-- Numbers that fit the width are told apart by their digits. -/
theorem hexDigits_injective (left : m < 16 ^ width) (right : n < 16 ^ width)
    (same : hexDigits width m = hexDigits width n) : m = n := by
  induction width generalizing m n with
  | zero => simp only [Nat.pow_zero] at left right; omega
  | succ width ih =>
    simp only [hexDigits] at same
    obtain ⟨high, low⟩ := List.append_inj' same rfl
    have lowSame := hexDigit_injective (Nat.mod_lt _ (by decide)) (Nat.mod_lt _ (by decide))
      (List.singleton_inj.mp low)
    have highSame := ih (Nat.div_lt_of_lt_mul (by rw [Nat.pow_succ] at left; omega))
      (Nat.div_lt_of_lt_mul (by rw [Nat.pow_succ] at right; omega)) high
    omega

/-- Dropping the separators gives the text back. -/
theorem filter_grouped {separator : Char} (sizes : List Nat) (absent : separator ∉ text) :
    (grouped separator sizes text).filter (· ≠ separator) = text := by
  induction sizes generalizing text with
  | nil =>
    exact List.filter_eq_self.mpr fun c member => by
      simpa using fun same : c = separator => absent (same ▸ member)
  | cons size sizes ih =>
    have head : (text.take size).filter (· ≠ separator) = text.take size :=
      List.filter_eq_self.mpr fun c member => by
        simpa using fun same : c = separator => absent (same ▸ List.mem_of_mem_take member)
    have tail := @ih (text.drop size) fun member => absent (List.mem_of_mem_drop member)
    simp only [grouped, List.filter_append, List.filter_cons, head, tail]
    simp

theorem grouped_injective {separator : Char} (sizes : List Nat) (left : separator ∉ first)
    (right : separator ∉ second)
    (same : grouped separator sizes first = grouped separator sizes second) : first = second := by
  rw [← filter_grouped sizes left, ← filter_grouped sizes right, same]

/-- Grouping adds no character but the separator. -/
theorem not_mem_grouped {separator c : Char} (sizes : List Nat) (differ : c ≠ separator)
    (absent : c ∉ text) : c ∉ grouped separator sizes text := by
  induction sizes generalizing text with
  | nil => exact absent
  | cons size sizes ih =>
    simp only [grouped, List.mem_append, List.mem_cons, not_or]
    exact ⟨fun member => absent (List.mem_of_mem_take member), differ,
      ih fun member => absent (List.mem_of_mem_drop member)⟩

theorem length_cut_le (limit : Nat) (text : String) : (cut limit text).length ≤ limit := by
  rw [cut, String.length_ofList, List.length_take]
  omega

theorem length_hexDigits (width n : Nat) : (hexDigits width n).length = width := by
  induction width generalizing n with
  | zero => rfl
  | succ width ih => simp [hexDigits, ih]

/-- One separator for each group but the last. -/
theorem length_grouped (separator : Char) (sizes : List Nat) (text : List Char) :
    (grouped separator sizes text).length = text.length + sizes.length := by
  induction sizes generalizing text with
  | nil => rfl
  | cons size sizes ih =>
    simp only [grouped, List.length_append, List.length_take, List.length_cons, ih, List.length_drop]
    omega

/-- Replacing a character that does not occur changes nothing. -/
theorem replace_append_absent (old new : Char) (first : String) (absent : old ∉ second.toList) :
    (replace old new (first ++ second)).toList = (replace old new first).toList ++ second.toList := by
  have kept : second.toList.map (fun c => if c = old then new else c) = second.toList := by
    conv_rhs => rw [← List.map_id second.toList]
    apply List.map_congr_left
    intro c member
    exact if_neg fun same : c = old => absent (same ▸ member)
  simp only [replace, String.toList_map, String.toList_append, List.map_append, kept]

end Text
