import Mathlib.Tactic

/-!
# The C library reads of the uevent parsers

`GetEventValue` and `GetTokenValue` walk the zero-padded buffer `UEventThread` fills,
calling `strstr`, `strlen` and `atoi` on the strings in it, and `UEventHandler` adds
`strcasestr` and `strncmp`. This module models those calls as reads of a byte buffer
`List UInt8`. Each byte is read where the C library reads it, and
a read past the end of the buffer is an `OutOfBuffer` fault that ends the computation; a
result `.ok` therefore says that every byte read lies inside the buffer.

* `readCString` reads a string up to its NUL, one byte at a time, as `strlen` does.
* `strstr` and `strcasestr` read the whole string they search, up to and including its
  NUL: no implementation reads further, and one that stops at a match reads less.
* `strncmp` against a string without NUL reads up to the first byte that differs.
* `atoi` skips white space, reads an optional sign and then digits, and stops at the first
  byte that is not a digit: the bytes `strtol` reads. Its value is the integer the digits
  spell; `atoi` of a number outside the range of `int` is undefined in C, and nothing here
  depends on it.

A reader is a function of the rest of the buffer from the index it starts at, `buf.drop i`,
and of that index, which it needs only to name the byte at which it faults.

## Main results

* `readCString_ok_of_getElem?`: a NUL `k` bytes on ends the string read there after at
  most `k` bytes, with no fault.
* `findOffset_sound`: where `strstr` finds a key, the key's bytes are there, inside the
  string searched.
* `strcasestr_ok`, `strncmpEq_ok`, `atoi_ok`: none of them faults on a string that a NUL
  ends inside the buffer.
-/

namespace HwcSession.UEvent

/-- A read of the byte at `index`, past the end of the buffer. -/
structure OutOfBuffer where
  index : Nat
  deriving DecidableEq, Repr

/-- The bytes of an ASCII text. -/
def ascii (s : String) : List UInt8 := s.toList.map fun c => c.toNat.toUInt8

/-- A C string constant, such as the keys `UEventHandler` passes: its bytes before the
terminating NUL, none of which is NUL. -/
structure CString where
  bytes : List UInt8
  no_nul : 0 ∉ bytes

/-! ## One string of the buffer -/

/-- `*p`: the byte at index `i` of `buf`. -/
def readByte (buf : List UInt8) (i : Nat) : Except OutOfBuffer UInt8 :=
  match buf[i]? with
  | some b => .ok b
  | none => .error ⟨i⟩

/-- The string at index `i`, where `bs` is the buffer from `i` on, read a byte at a time up
to its NUL. -/
def readCString : List UInt8 → Nat → Except OutOfBuffer (List UInt8)
  | [], i => .error ⟨i⟩
  | b :: bs, i => if b = 0 then .ok [] else (b :: ·) <$> readCString bs (i + 1)

/-- `strlen` of the string at index `i` of `buf`. -/
def strlen (buf : List UInt8) (i : Nat) : Except OutOfBuffer Nat :=
  List.length <$> readCString (buf.drop i) i

/-- The offset of the first occurrence of `needle` in the string `s`. -/
def findOffset (needle : List UInt8) : List UInt8 → Option Nat
  | [] => if needle = [] then some 0 else none
  | c :: s =>
    if (c :: s).take needle.length = needle then some 0
    else (findOffset needle s).map (· + 1)

/-- `strstr` of `needle` in the string at index `i` of `buf`: the index of the first
occurrence, or `NULL` (`none`). -/
def strstr (buf : List UInt8) (i : Nat) (needle : List UInt8) :
    Except OutOfBuffer (Option Nat) :=
  (fun s => (findOffset needle s).map (i + ·)) <$> readCString (buf.drop i) i

@[simp] theorem readByte_of_getElem? {buf : List UInt8} {i : Nat} {b : UInt8}
    (h : buf[i]? = some b) : readByte buf i = .ok b := by
  simp only [readByte, h]

@[simp] theorem map_ok {α β : Type} (f : α → β) (a : α) :
    (f <$> (.ok a : Except OutOfBuffer α)) = .ok (f a) := rfl

@[simp] theorem bind_ok {α β : Type} (a : α) (f : α → Except OutOfBuffer β) :
    ((.ok a : Except OutOfBuffer α) >>= f) = f a := rfl

/-- A NUL `k` bytes on ends the string after at most `k` bytes, none of them NUL. -/
theorem readCString_ok_of_getElem? :
    ∀ (bs : List UInt8) (i k : Nat), bs[k]? = some 0 →
      ∃ s, readCString bs i = .ok s ∧ s.length ≤ k ∧ 0 ∉ s
  | [], _, _, h => by simp at h
  | b :: bs, i, k, h => by
    by_cases hb : b = 0
    · exact ⟨[], by simp [readCString, hb], Nat.zero_le _, List.not_mem_nil 0⟩
    · obtain _ | k := k
      · simp only [List.getElem?_cons_zero, Option.some.injEq] at h
        exact absurd h hb
      · obtain ⟨s, hs, hlen, hnul⟩ :=
          readCString_ok_of_getElem? bs (i + 1) k (by simpa using h)
        refine ⟨b :: s, by simp [readCString, hb, hs], by simp [hlen], ?_⟩
        simp only [List.mem_cons, not_or]
        exact ⟨Ne.symm hb, hnul⟩

/-! ## `strstr` -/

/-- Where `strstr` finds `needle`, the string holds `needle`'s bytes, all of them before
its end. -/
theorem findOffset_sound {needle : List UInt8} :
    ∀ {s : List UInt8} {o : Nat}, findOffset needle s = some o →
      (s.drop o).take needle.length = needle ∧ o + needle.length ≤ s.length
  | [], o, h => by
    by_cases hn : needle = [] <;> simp_all [findOffset]
  | c :: s, o, h => by
    by_cases hp : (c :: s).take needle.length = needle
    · simp only [findOffset, hp, if_true, Option.some.injEq] at h
      subst h
      refine ⟨hp, ?_⟩
      have := congrArg List.length hp
      simp only [List.length_take] at this
      omega
    · simp only [findOffset, hp, if_false, Option.map_eq_some'] at h
      obtain ⟨o', ho', rfl⟩ := h
      obtain ⟨htake, hlen⟩ := findOffset_sound ho'
      exact ⟨htake, by simp only [List.length_cons]; omega⟩

/-- `tolower` in the C locale. -/
def toLower (b : UInt8) : UInt8 := if 65 ≤ b ∧ b ≤ 90 then b + 32 else b

/-- `strcasestr` of `needle` in the string at index `i` of `buf`: the index of the first
occurrence, letters compared without case, or `NULL` (`none`). -/
def strcasestr (buf : List UInt8) (i : Nat) (needle : List UInt8) :
    Except OutOfBuffer (Option Nat) :=
  (fun s => (findOffset (needle.map toLower) (s.map toLower)).map (i + ·)) <$>
    readCString (buf.drop i) i

/-- `strncmp(s, t, strlen(t)) == 0` for the string `s` at index `i`, where `bs` is the
buffer from `i` on and `t` has no NUL: whether `s` starts with `t`, read up to the first
byte that differs. -/
def strncmpEq : List UInt8 → Nat → List UInt8 → Except OutOfBuffer Bool
  | _, _, [] => .ok true
  | [], i, _ :: _ => .error ⟨i⟩
  | b :: bs, i, c :: t => if b = c then strncmpEq bs (i + 1) t else .ok false

/-- `strcasestr` reads no further than the NUL that ends its string. -/
theorem strcasestr_ok {buf : List UInt8} {i z : Nat} (hiz : i ≤ z) (hz : buf[z]? = some 0)
    (needle : List UInt8) : ∃ r, strcasestr buf i needle = .ok r := by
  obtain ⟨s, hs, -⟩ := readCString_ok_of_getElem? (buf.drop i) i (z - i)
    (by rwa [List.getElem?_drop, Nat.add_sub_cancel' hiz])
  simp only [strcasestr, hs, map_ok, Except.ok.injEq, exists_eq']

/-- `strncmp` against a string without NUL stops at the latest at the NUL that ends the
string it reads. -/
theorem strncmpEq_ok : ∀ {bs : List UInt8} (i : Nat) {t : List UInt8}, 0 ∈ bs → 0 ∉ t →
    ∃ r, strncmpEq bs i t = .ok r
  | _, _, [], _, _ => ⟨true, by cases ‹List UInt8› <;> rfl⟩
  | b :: bs, i, c :: t, h, ht => by
    by_cases hbc : b = c
    · have hb : b ≠ 0 := fun hb => ht (hbc ▸ hb ▸ List.mem_cons_self _ t)
      simp only [strncmpEq, hbc, if_true]
      exact strncmpEq_ok (i + 1) ((List.mem_cons.mp h).resolve_left (Ne.symm hb))
        fun h' => ht (List.mem_cons_of_mem c h')
    · exact ⟨false, by simp [strncmpEq, hbc]⟩

/-! ## `atoi` -/

/-- `isspace` in the C locale: space, `\t`, `\n`, `\v`, `\f` and `\r`. -/
def isSpace (b : UInt8) : Bool := b == 32 || (9 ≤ b && b ≤ 13)

/-- `isdigit`: `0` to `9`. -/
def isDigit (b : UInt8) : Bool := 48 ≤ b && b ≤ 57

/-- The decimal digits from index `i` on, after the value `v` they continue; the first
byte that is not a digit ends the number. -/
def atoiDigits : List UInt8 → Nat → Int → Except OutOfBuffer Int
  | [], i, _ => .error ⟨i⟩
  | b :: bs, i, v =>
    if isDigit b then atoiDigits bs (i + 1) (10 * v + (b.toNat - 48 : Nat)) else .ok v

/-- The number at index `i`, past its leading white space: a `-` or `+`, then digits. -/
def atoiSigned : List UInt8 → Nat → Except OutOfBuffer Int
  | [], i => .error ⟨i⟩
  | b :: bs, i =>
    if b = 45 then Neg.neg <$> atoiDigits bs (i + 1) 0
    else if b = 43 then atoiDigits bs (i + 1) 0
    else atoiDigits (b :: bs) i 0

/-- `atoi` of the string at index `i`, where `bs` is the buffer from `i` on. -/
def atoiFrom : List UInt8 → Nat → Except OutOfBuffer Int
  | [], i => .error ⟨i⟩
  | b :: bs, i => if isSpace b then atoiFrom bs (i + 1) else atoiSigned (b :: bs) i

/-- `atoi` of the string at index `i` of `buf`. -/
def atoi (buf : List UInt8) (i : Nat) : Except OutOfBuffer Int := atoiFrom (buf.drop i) i

theorem atoiDigits_ok : ∀ {bs : List UInt8} (i : Nat) (v : Int), 0 ∈ bs →
    ∃ n, atoiDigits bs i v = .ok n
  | b :: bs, i, v, h => by
    by_cases hd : isDigit b
    · have hb : b ≠ 0 := by rintro rfl; exact absurd hd (by decide)
      simp only [atoiDigits, hd, if_true]
      exact atoiDigits_ok (i + 1) _ ((List.mem_cons.mp h).resolve_left (Ne.symm hb))
    · exact ⟨v, by simp [atoiDigits, hd]⟩

theorem atoiSigned_ok {bs : List UInt8} (i : Nat) (h : 0 ∈ bs) :
    ∃ n, atoiSigned bs i = .ok n := by
  obtain _ | ⟨b, bs⟩ := bs
  · simp at h
  · have htail (hb : b ≠ 0) : 0 ∈ bs := (List.mem_cons.mp h).resolve_left (Ne.symm hb)
    by_cases hm : b = 45
    · obtain ⟨n, hn⟩ := atoiDigits_ok (i + 1) 0 (htail (by rw [hm]; decide))
      exact ⟨-n, by simp [atoiSigned, hm, hn]⟩
    · by_cases hp : b = 43
      · obtain ⟨n, hn⟩ := atoiDigits_ok (i + 1) 0 (htail (by rw [hp]; decide))
        exact ⟨n, by simp [atoiSigned, hp, hn]⟩
      · simpa [atoiSigned, hm, hp] using atoiDigits_ok i 0 h

theorem atoiFrom_ok : ∀ {bs : List UInt8} (i : Nat), 0 ∈ bs → ∃ n, atoiFrom bs i = .ok n
  | b :: bs, i, h => by
    by_cases hs : isSpace b
    · have hb : b ≠ 0 := by rintro rfl; exact absurd hs (by decide)
      simp only [atoiFrom, hs, if_true]
      exact atoiFrom_ok (i + 1) ((List.mem_cons.mp h).resolve_left (Ne.symm hb))
    · simpa [atoiFrom, hs] using atoiSigned_ok i h

/-- `atoi` reads no further than the NUL that ends its string. -/
theorem atoi_ok {buf : List UInt8} {i z : Nat} (hiz : i ≤ z) (hz : buf[z]? = some 0) :
    ∃ n, atoi buf i = .ok n :=
  atoiFrom_ok i (List.getElem?_mem (by rwa [List.getElem?_drop, Nat.add_sub_cancel' hiz]))

end HwcSession.UEvent
