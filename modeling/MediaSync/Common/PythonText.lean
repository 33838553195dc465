import Mathlib

/-!
# Characters as the standard library sees them

Decimal digits, white space and the few text operations that parsing needs,
over Unicode 15. A decimal digit of any script is a digit to a pattern and to
the conversion to an integer, which refuses texts of more than 4300 digits.
Operations work on lists of characters, where they compute.
-/
namespace MediaSync.PythonText

/-- The characters for zero; the other digits of a script follow its zero. -/
def zeros : List ℕ :=
  [0x30, 0x660, 0x6f0, 0x7c0, 0x966, 0x9e6, 0xa66, 0xae6, 0xb66, 0xbe6, 0xc66, 0xce6, 0xd66, 0xde6,
    0xe50, 0xed0, 0xf20, 0x1040, 0x1090, 0x17e0, 0x1810, 0x1946, 0x19d0, 0x1a80, 0x1a90, 0x1b50,
    0x1bb0, 0x1c40, 0x1c50, 0xa620, 0xa8d0, 0xa900, 0xa9d0, 0xa9f0, 0xaa50, 0xabf0, 0xff10, 0x104a0,
    0x10d30, 0x11066, 0x110f0, 0x11136, 0x111d0, 0x112f0, 0x11450, 0x114d0, 0x11650, 0x116c0,
    0x11730, 0x118e0, 0x11950, 0x11c50, 0x11d50, 0x11da0, 0x11f50, 0x16a60, 0x16ac0, 0x16b50,
    0x1d7ce, 0x1d7d8, 0x1d7e2, 0x1d7ec, 0x1d7f6, 0x1e140, 0x1e2f0, 0x1e4f0, 0x1e950, 0x1fbf0]

def digitValue (c : Char) : Option ℕ :=
  (zeros.find? fun base => base ≤ c.toNat ∧ c.toNat < base + 10).map fun base => c.toNat - base

/-- `\d` in a text pattern -/
def isDecimal (c : Char) : Bool := (digitValue c).isSome

def isSpace (c : Char) : Bool :=
  c.toNat ∈ [0x9, 0xa, 0xb, 0xc, 0xd, 0x1c, 0x1d, 0x1e, 0x1f, 0x20, 0x85, 0xa0, 0x1680, 0x2000,
    0x2001, 0x2002, 0x2003, 0x2004, 0x2005, 0x2006, 0x2007, 0x2008, 0x2009, 0x200a, 0x2028, 0x2029,
    0x202f, 0x205f, 0x3000]

def strip (cs : List Char) : List Char :=
  ((cs.dropWhile isSpace).reverse.dropWhile isSpace).reverse

/-- `str.split` at a single character -/
def splitChar (sep : Char) : List Char → List (List Char)
  | [] => [[]]
  | c :: cs =>
    match splitChar sep cs with
    | [] => [[c]]
    | piece :: pieces => if c = sep then [] :: piece :: pieces else (c :: piece) :: pieces

theorem splitChar_cons (sep c : Char) (cs : List Char) : splitChar sep (c :: cs) =
    match splitChar sep cs with
    | [] => [[c]]
    | piece :: pieces => if c = sep then [] :: piece :: pieces else (c :: piece) :: pieces := rfl

theorem splitChar_ne_nil (sep : Char) (cs : List Char) : splitChar sep cs ≠ [] := by
  cases cs with
  | nil => exact List.cons_ne_nil _ _
  | cons c cs =>
    rw [splitChar_cons]
    split
    · exact List.cons_ne_nil _ _
    · split <;> exact List.cons_ne_nil _ _

theorem splitChar_sep (sep : Char) (rest : List Char) :
    splitChar sep (sep :: rest) = [] :: splitChar sep rest := by
  rw [splitChar_cons]
  cases h : splitChar sep rest with
  | nil => exact absurd h (splitChar_ne_nil sep rest)
  | cons piece pieces => simp

theorem splitChar_of_notMem {sep : Char} {cs : List Char} (h : sep ∉ cs) :
    splitChar sep cs = [cs] := by
  induction cs with
  | nil => rfl
  | cons c cs ih =>
    rw [List.mem_cons, not_or] at h
    rw [splitChar_cons, ih h.2]
    exact if_neg (Ne.symm h.1)

/-- The piece before the first separator. -/
theorem splitChar_append {sep : Char} {cs : List Char} (h : sep ∉ cs) (rest : List Char) :
    splitChar sep (cs ++ sep :: rest) = cs :: splitChar sep rest := by
  induction cs with
  | nil => exact splitChar_sep sep rest
  | cons c cs ih =>
    rw [List.mem_cons, not_or] at h
    rw [List.cons_append, splitChar_cons, ih h.2]
    exact if_neg (Ne.symm h.1)

theorem notMem_of_mem_splitChar {sep : Char} {cs piece : List Char} (h : piece ∈ splitChar sep cs) :
    sep ∉ piece := by
  induction cs generalizing piece with
  | nil =>
    rw [List.mem_singleton.mp h]
    exact List.not_mem_nil
  | cons c cs ih =>
    obtain ⟨first, rest, heq⟩ := List.exists_cons_of_ne_nil (splitChar_ne_nil sep cs)
    rw [splitChar_cons, heq] at h
    rw [heq] at ih
    dsimp only at h
    split_ifs at h with hc
    · rcases List.mem_cons.mp h with rfl | h
      · exact List.not_mem_nil
      · exact ih h
    · rcases List.mem_cons.mp h with rfl | h
      · rw [List.mem_cons, not_or]
        exact ⟨fun heq => hc heq.symm, ih (List.mem_cons_self ..)⟩
      · exact ih (List.mem_cons_of_mem _ h)

/-- The digits a text starts with, and the rest. -/
def digitsPrefix (cs : List Char) : List Char × List Char := cs.span isDecimal

def valueOf (digits : List Char) : ℕ :=
  digits.foldl (fun n c => 10 * n + (digitValue c).getD 0) 0

/-- `int` of a text of decimal digits -/
def intOfDigits (digits : List Char) : Option ℕ :=
  if digits = [] ∨ 4300 < digits.length then none else some (valueOf digits)

/-- What is left of a text after a literal beginning. -/
def afterLiteral (literal : String) (cs : List Char) : Option (List Char) :=
  if literal.toList.isPrefixOf cs then some (cs.drop literal.toList.length) else none

/-- `[0-9a-fA-F]` -/
def isHexDigit (c : Char) : Bool :=
  ('0' ≤ c && c ≤ '9') || ('a' ≤ c && c ≤ 'f') || ('A' ≤ c && c ≤ 'F')

def lowerHex (c : Char) : Char :=
  if 'A' ≤ c ∧ c ≤ 'F' then Char.ofNat (c.toNat + 32) else c

/-- The tables that tell letters and numbers of every script, for `isalnum`. -/
class Alphanumerics where
  isAlnum : Char → Bool

/-- `isalnum` of a text -/
def alphanumericText [Alphanumerics] (cs : List Char) : Bool :=
  !cs.isEmpty && cs.all Alphanumerics.isAlnum

/-! ## Bytes as hexadecimal text -/

abbrev Bytes := List UInt8

def hexDigit (n : ℕ) : Char := Char.ofNat (if n < 10 then 48 + n else 87 + n)

/-- `hexdigest` of a digest -/
def hexDigest (bytes : Bytes) : String :=
  String.ofList (bytes.flatMap fun b => [hexDigit (b.toNat / 16), hexDigit (b.toNat % 16)])

def hexValue (c : Char) : Option ℕ :=
  if '0' ≤ c ∧ c ≤ '9' then some (c.toNat - 48)
  else if 'a' ≤ c ∧ c ≤ 'f' then some (c.toNat - 87)
  else if 'A' ≤ c ∧ c ≤ 'F' then some (c.toNat - 55)
  else none

def asciiSpace (c : Char) : Bool := c.toNat ∈ [0x9, 0xa, 0xb, 0xc, 0xd, 0x20]

/-- `bytes.fromhex`, which skips white space between bytes. -/
def bytesFromHex : List Char → Option Bytes
  | [] => some []
  | c :: cs =>
    if asciiSpace c then bytesFromHex cs else match cs with
      | [] => none
      | d :: rest => do
        let high ← hexValue c
        let low ← hexValue d
        let bytes ← bytesFromHex rest
        some (UInt8.ofNat (16 * high + low) :: bytes)

def fromHex (text : String) : Option Bytes := bytesFromHex text.toList

theorem hexValue_hexDigit {n : ℕ} (h : n < 16) : hexValue (hexDigit n) = some n := by
  revert n
  decide

theorem asciiSpace_hexDigit {n : ℕ} (h : n < 16) : asciiSpace (hexDigit n) = false := by
  revert n
  decide

theorem fromHex_hexDigest (bytes : Bytes) : fromHex (hexDigest bytes) = some bytes := by
  unfold fromHex hexDigest
  rw [String.toList_ofList]
  induction bytes with
  | nil => rfl
  | cons b bytes ih =>
    have hb : b.toNat < 256 := b.toNat_lt
    have high : b.toNat / 16 < 16 := by omega
    have low : b.toNat % 16 < 16 := by omega
    have whole : 16 * (b.toNat / 16) + b.toNat % 16 = b.toNat := by omega
    simp only [List.flatMap_cons, List.cons_append, List.nil_append]
    rw [bytesFromHex, asciiSpace_hexDigit high, hexValue_hexDigit high, hexValue_hexDigit low, ih]
    change some (UInt8.ofNat (16 * (b.toNat / 16) + b.toNat % 16) :: bytes) = _
    rw [whole, UInt8.ofNat_toNat]

end MediaSync.PythonText
