import MediaSync.Common.PythonText

/-!
# Base64 with a URL-safe alphabet

Three bytes are four characters. Encoding is the usual one; decoding is the
lenient automaton of a byte at a time, which skips what is not in the alphabet
and stops at the padding that completes a quad, or the strict one, which raises
on both. A text that has lost its padding decodes again once it is padded up to
a multiple of four, by either of them.
-/
namespace MediaSync.UrlSafeBase64
open PythonText

/-! ## Encoding -/

/-- The character of six bits. -/
def sextetChar (n : ℕ) : Char :=
  if n < 26 then Char.ofNat (65 + n)
  else if n < 52 then Char.ofNat (71 + n)
  else if n < 62 then Char.ofNat (n - 4)
  else if n = 62 then '-'
  else '_'

/-- The six bits of a character; both alphabets are read. -/
def charSextet (c : Char) : Option ℕ :=
  if 'A' ≤ c ∧ c ≤ 'Z' then some (c.toNat - 65)
  else if 'a' ≤ c ∧ c ≤ 'z' then some (c.toNat - 71)
  else if '0' ≤ c ∧ c ≤ '9' then some (c.toNat + 4)
  else if c = '-' ∨ c = '+' then some 62
  else if c = '_' ∨ c = '/' then some 63
  else none

theorem charSextet_sextetChar {n : ℕ} (h : n < 64) : charSextet (sextetChar n) = some n := by
  revert n
  decide

theorem sextetChar_ne_pad {n : ℕ} (h : n < 64) : sextetChar n ≠ '=' := by
  revert n
  decide

theorem sextetChar_ascii {n : ℕ} (h : n < 64) : (sextetChar n).toNat < 128 := by
  revert n
  decide

theorem sextetChar_ne_dot {n : ℕ} (h : n < 64) : sextetChar n ≠ '.' := by
  revert n
  decide

/-- The six-bit groups of some bytes, the last one filled up with zeros. -/
def sextets : Bytes → List ℕ
  | [] => []
  | [a] => [a.toNat / 4, a.toNat % 4 * 16]
  | [a, b] => [a.toNat / 4, a.toNat % 4 * 16 + b.toNat / 16, b.toNat % 16 * 4]
  | a :: b :: c :: rest =>
    a.toNat / 4 :: (a.toNat % 4 * 16 + b.toNat / 16) :: (b.toNat % 16 * 4 + c.toNat / 64) ::
      c.toNat % 64 :: sextets rest

theorem sextets_lt (bytes : Bytes) : ∀ n ∈ sextets bytes, n < 64 := by
  fun_induction sextets bytes with
  | case1 => exact fun _ h => nomatch h
  | case2 a =>
    have ha := a.toNat_lt
    simp only [List.mem_cons, List.not_mem_nil, or_false, forall_eq_or_imp, forall_eq]
    omega
  | case3 a b =>
    have ha := a.toNat_lt
    have hb := b.toNat_lt
    simp only [List.mem_cons, List.not_mem_nil, or_false, forall_eq_or_imp, forall_eq]
    omega
  | case4 a b c rest ih =>
    have ha := a.toNat_lt
    have hb := b.toNat_lt
    have hc := c.toNat_lt
    simp only [List.mem_cons, forall_eq_or_imp]
    refine ⟨?_, ?_, ?_, ?_, ih⟩ <;> omega

/-- What is missing to a multiple of four. -/
def padding (cs : List Char) : List Char := List.replicate ((4 - cs.length % 4) % 4) '='

def unpadded (bytes : Bytes) : List Char := (sextets bytes).map sextetChar

/-- `urlsafe_b64encode` -/
def encode (bytes : Bytes) : List Char := unpadded bytes ++ padding (unpadded bytes)

/-- `rstrip` of one character -/
def rstrip (pad : Char) (cs : List Char) : List Char := (cs.reverse.dropWhile (· = pad)).reverse

theorem mem_unpadded {bytes : Bytes} {c : Char} (h : c ∈ unpadded bytes) :
    ∃ n < 64, c = sextetChar n := by
  obtain ⟨n, hn, rfl⟩ := List.mem_map.mp h
  exact ⟨n, sextets_lt bytes n hn, rfl⟩

/-- Stripping the padding leaves the unpadded text. -/
theorem rstrip_encode (bytes : Bytes) : rstrip '=' (encode bytes) = unpadded bytes := by
  unfold rstrip encode padding
  rw [List.reverse_append, List.reverse_replicate, List.dropWhile_append,
    List.dropWhile_replicate]
  have hkept : (unpadded bytes).reverse.dropWhile (· = '=') = (unpadded bytes).reverse := by
    rw [List.dropWhile_eq_self_iff]
    intro hne hpad
    obtain ⟨n, hn, hc⟩ := mem_unpadded (List.mem_reverse.mp (List.getElem_mem hne))
    rw [hc] at hpad
    exact sextetChar_ne_pad hn (by simpa using hpad)
  simp [hkept]

/-! ## Decoding -/

/-- `binascii.a2b_base64`: `quad` characters of the current group have been
read, `left` are the bits of the last one that no byte has taken, and `pads`
padding characters have followed. -/
def decodeFrom (strict : Bool) : List Char → (quad left pads : ℕ) → (padded : Bool) → Option Bytes
  | [], quad, _, _, _ => if quad = 0 then some [] else none
  | c :: cs, quad, left, pads, padded =>
    if c = '=' then
      if quad < 2 then decodeFrom strict cs quad left pads true
      else if 4 ≤ quad + pads + 1 then if strict ∧ cs ≠ [] then none else some []
      else decodeFrom strict cs quad left (pads + 1) true
    else
      match charSextet c with
      | none => if strict then none else decodeFrom strict cs quad left pads padded
      | some n =>
        if strict ∧ padded then none
        else if quad = 0 then decodeFrom strict cs 1 n 0 padded
        else if quad = 1 then
          (decodeFrom strict cs 2 (n % 16) 0 padded).map (UInt8.ofNat (left * 4 + n / 16) :: ·)
        else if quad = 2 then
          (decodeFrom strict cs 3 (n % 4) 0 padded).map (UInt8.ofNat (left * 16 + n / 4) :: ·)
        else (decodeFrom strict cs 0 0 0 padded).map (UInt8.ofNat (left * 64 + n) :: ·)

/-- `b64decode` of a text; only ASCII is looked at, and the strict one takes no
leading padding. -/
def decode (strict : Bool) (cs : List Char) : Option Bytes :=
  if cs.any fun c => 128 ≤ c.toNat then none
  else if strict ∧ cs.head? = some '=' then none
  else decodeFrom strict cs 0 0 0 false

/-- A text whose padding was stripped, padded again. -/
def decodeStripped (strict : Bool) (cs : List Char) : Option Bytes :=
  decode strict (cs ++ padding cs)

section RoundTrip
variable {strict : Bool} {n m p q : ℕ} (cs : List Char)

theorem decodeFrom_char (hn : n < 64) (quad left pads : ℕ) :
    decodeFrom strict (sextetChar n :: cs) quad left pads false =
      if quad = 0 then decodeFrom strict cs 1 n 0 false
      else if quad = 1 then
          (decodeFrom strict cs 2 (n % 16) 0 false).map (UInt8.ofNat (left * 4 + n / 16) :: ·)
      else if quad = 2 then
          (decodeFrom strict cs 3 (n % 4) 0 false).map (UInt8.ofNat (left * 16 + n / 4) :: ·)
      else (decodeFrom strict cs 0 0 0 false).map (UInt8.ofNat (left * 64 + n) :: ·) := by
  rw [decodeFrom, if_neg (sextetChar_ne_pad hn), charSextet_sextetChar hn]
  simp

/-- A full group of four characters is three bytes. -/
theorem decodeFrom_group (hn : n < 64) (hm : m < 64) (hp : p < 64) (hq : q < 64) :
    decodeFrom strict (sextetChar n :: sextetChar m :: sextetChar p :: sextetChar q :: cs) 0 0 0
      false = (decodeFrom strict cs 0 0 0 false).map fun rest =>
        UInt8.ofNat (n * 4 + m / 16) :: UInt8.ofNat (m % 16 * 16 + p / 4) ::
          UInt8.ofNat (p % 4 * 64 + q) :: rest := by
  rw [decodeFrom_char _ hn, if_pos rfl, decodeFrom_char _ hm, if_neg (by decide), if_pos rfl,
    decodeFrom_char _ hp, if_neg (by decide), if_neg (by decide), if_pos rfl,
    decodeFrom_char _ hq, if_neg (by decide), if_neg (by decide), if_neg (by decide)]
  cases decodeFrom strict cs 0 0 0 false <;> rfl

theorem decodeFrom_two (hn : n < 64) (hm : m < 64) :
    decodeFrom strict [sextetChar n, sextetChar m, '=', '='] 0 0 0 false =
      some [UInt8.ofNat (n * 4 + m / 16)] := by
  rw [decodeFrom_char _ hn, if_pos rfl, decodeFrom_char _ hm, if_neg (by decide), if_pos rfl]
  simp [decodeFrom]

theorem decodeFrom_three (hn : n < 64) (hm : m < 64) (hp : p < 64) :
    decodeFrom strict [sextetChar n, sextetChar m, sextetChar p, '='] 0 0 0 false =
      some [UInt8.ofNat (n * 4 + m / 16), UInt8.ofNat (m % 16 * 16 + p / 4)] := by
  rw [decodeFrom_char _ hn, if_pos rfl, decodeFrom_char _ hm, if_neg (by decide), if_pos rfl,
    decodeFrom_char _ hp, if_neg (by decide), if_neg (by decide), if_pos rfl]
  simp [decodeFrom]

end RoundTrip

/-- Some bytes, encoded and padded, are read back. -/
theorem decodeFrom_encode (strict : Bool) (bytes : Bytes) :
    decodeFrom strict (encode bytes) 0 0 0 false = some bytes := by
  have hbyte (n : ℕ) (b : UInt8) (h : n = b.toNat) : UInt8.ofNat n = b := by
    rw [h, UInt8.ofNat_toNat]
  unfold encode unpadded
  fun_induction sextets bytes with
  | case1 => rfl
  | case2 a =>
    have ha := a.toNat_lt
    have hpadding : padding [sextetChar (a.toNat / 4), sextetChar (a.toNat % 4 * 16)] =
        ['=', '='] := rfl
    rw [List.map_cons, List.map_cons, List.map_nil, hpadding]
    rw [List.cons_append, List.cons_append, List.nil_append,
      decodeFrom_two (by omega) (by omega), hbyte _ a (by omega)]
  | case3 a b =>
    have ha := a.toNat_lt
    have hb := b.toNat_lt
    have hpadding : padding [sextetChar (a.toNat / 4),
        sextetChar (a.toNat % 4 * 16 + b.toNat / 16), sextetChar (b.toNat % 16 * 4)] = ['='] := rfl
    rw [List.map_cons, List.map_cons, List.map_cons, List.map_nil, hpadding]
    rw [List.cons_append, List.cons_append, List.cons_append, List.nil_append,
      decodeFrom_three (by omega) (by omega) (by omega), hbyte _ a (by omega),
      hbyte _ b (by omega)]
  | case4 a b c rest ih =>
    have ha := a.toNat_lt
    have hb := b.toNat_lt
    have hc := c.toNat_lt
    have hpadding (x y z t : Char) (cs : List Char) :
        padding (x :: y :: z :: t :: cs) = padding cs := by
      have hlength : (cs.length + 1 + 1 + 1 + 1) % 4 = cs.length % 4 := by omega
      simp [padding, hlength]
    simp only [List.map_cons, List.cons_append, hpadding]
    rw [decodeFrom_group _ (by omega) (by omega) (by omega) (by omega), ih, Option.map_some,
      hbyte _ a (by omega), hbyte _ b (by omega), hbyte _ c (by omega)]

/-- Bytes survive encoding, stripping the padding and decoding. -/
theorem decodeStripped_rstrip (strict : Bool) (bytes : Bytes) :
    decodeStripped strict (rstrip '=' (encode bytes)) = some bytes := by
  rw [rstrip_encode]
  change decode strict (encode bytes) = some bytes
  have hchars (c : Char) (hc : c ∈ encode bytes) : c.toNat < 128 := by
    rcases List.mem_append.mp hc with hc | hc
    · obtain ⟨n, hn, rfl⟩ := mem_unpadded hc
      exact sextetChar_ascii hn
    · rw [List.eq_of_mem_replicate hc]
      decide
  have hascii : (encode bytes).any (fun c => 128 ≤ c.toNat) = false := by
    rw [List.any_eq_false]
    intro c hc
    simpa using hchars c hc
  have hhead : (encode bytes).head? ≠ some '=' := by
    unfold encode unpadded
    cases hsextets : sextets bytes with
    | nil => simp [padding]
    | cons n rest =>
      have hn : n < 64 := sextets_lt bytes n (hsextets ▸ List.mem_cons_self ..)
      simpa using sextetChar_ne_pad hn
  unfold decode
  rw [hascii]
  simp only [hhead, and_false, if_false, Bool.false_eq_true]
  exact decodeFrom_encode strict bytes

/-! ## Texts -/

/-- `str.encode` -/
def utf8 (text : String) : Bytes := text.toUTF8.data.toList

/-- `bytes.decode` -/
def fromUtf8 (bytes : Bytes) : Option String := String.fromUTF8? ⟨bytes.toArray⟩

theorem fromUtf8_utf8 (text : String) : fromUtf8 (utf8 text) = some text := by
  have hvalid : (⟨(utf8 text).toArray⟩ : ByteArray).IsValidUTF8 := text.isValidUTF8
  unfold fromUtf8 String.fromUTF8?
  rw [dif_pos hvalid]
  rfl

end MediaSync.UrlSafeBase64
