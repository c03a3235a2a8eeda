import HwcSession.UEvent.CString

/-!
# `GetEventValue` and `GetTokenValue` on the buffer `UEventThread` fills

`UEventThread` zero-initialises a `PAGE_SIZE` buffer, lets `uevent_next_event` write the
next kernel uevent message into all but its last two bytes, and hands the buffer and the
number of bytes written to `UEventHandler`. A uevent message is a sequence of strings, each
ended by a NUL; `UEventHandler` looks keys such as `bpp=` up in it with `GetEventValue`,
which returns an `int`, and with `GetTokenValue`, which returns a pointer to the text of the
value.

Both walk the strings with the same loop, `findKey`: from the start of the buffer, while
the offset of `iterator_str` is at most `length` and the string there is not empty,
`strstr` looks for the key in that string; the loop stops at the first string in which it
finds the key, and otherwise steps past the string's NUL. The two functions differ only in
what they do with what the loop found. `GetTokenValue` returns the text right after the
occurrence of the key (`pstr`); `GetEventValue` parses the text `strlen(key)` bytes after
the start of the string (`iterator_str`), which is the same text only when the key starts
the string.

The loop is defined by well-founded recursion on the source's own guard: each round moves
`iterator_str` forward by at least one byte, and the loop ends once it is past `length`.

## Main results

* `getEventValue_reads_from_string_start`: on a uevent whose string `max_bpp=30` holds
  `bpp=` after its start, `GetTokenValue` points at `30` while `GetEventValue` returns
  `0`; on `bpp=-1`, `GetEventValue` returns the `-1` that otherwise means "not found".
* `getEventValue_getTokenValue_in_bounds`: on a buffer whose bytes from `length` on are
  zero, with two of them past `length`, neither function faults, whatever the key.
* `ueventThreadRound_parsers_in_bounds`: this holds of every buffer `UEventThread` hands
  `UEventHandler`, whatever message the kernel sent.
-/

namespace HwcSession.UEvent

/-! ## The string walk -/

/-- The `while` loop of `GetEventValue` and `GetTokenValue`, from `iterator_str` at index
`p`: the first string, at an offset up to `length`, in which `strstr` finds `key`, as the
pair (`iterator_str`, `pstr`); `none` when the loop ends at an empty string or past
`length`. -/
def findKey (ueventData : List UInt8) (length : Int) (key : List UInt8) (p : Nat) :
    Except OutOfBuffer (Option (Nat × Nat)) :=
  if _h : (p : Int) ≤ length then
    readByte ueventData p >>= fun c =>
    if c = 0 then .ok none
    else
      strstr ueventData p key >>= fun
      | some pstr => .ok (some (p, pstr))
      | none => strlen ueventData p >>= fun n => findKey ueventData length key (p + n + 1)
  else .ok none
termination_by (length + 1 - p).toNat
decreasing_by all_goals simp_wf; omega

/-- `GetEventValue`: `atoi` of the text `strlen(event_info)` bytes after the start of the
first string that contains `event_info`, or `-1`. -/
def getEventValue (ueventData : List UInt8) (length : Int) (eventInfo : CString) :
    Except OutOfBuffer Int :=
  findKey ueventData length eventInfo.bytes 0 >>= fun
  | some (iteratorStr, _) => atoi ueventData (iteratorStr + eventInfo.bytes.length)
  | none => .ok (-1)

/-- `GetTokenValue`: the index of the text just after the first occurrence of `token` in
the first string that contains it, or `NULL` (`none`). -/
def getTokenValue (ueventData : List UInt8) (length : Int) (token : CString) :
    Except OutOfBuffer (Option Nat) :=
  findKey ueventData length token.bytes 0 >>= fun
  | some (_, pstr) => .ok (some (pstr + token.bytes.length))
  | none => .ok none

/-! ## Where the two parsers part -/

/-- `bpp=`, a key `UEventHandler` looks up with `GetEventValue`. -/
def bppKey : CString := ⟨ascii "bpp=", by decide⟩

/-- A uevent of one string, `max_bpp=30`, in which `bpp=` does not start the string. -/
def maxBppEvent : List UInt8 := ascii "max_bpp=30" ++ [0, 0, 0]

/-- A uevent of one string, `bpp=-1`. -/
def minusOneEvent : List UInt8 := ascii "bpp=-1" ++ [0, 0, 0]

/-- `GetTokenValue` points at the text after `bpp=`, `30`, but `GetEventValue` parses the
text four bytes after the start of the string, `bpp=30`, as `0`; and on `bpp=-1` it
returns the `-1` that also stands for a missing key. -/
theorem getEventValue_reads_from_string_start :
    getTokenValue maxBppEvent 11 bppKey = .ok (some 8) ∧ atoi maxBppEvent 8 = .ok 30 ∧
      getEventValue maxBppEvent 11 bppKey = .ok 0 ∧
      getTokenValue minusOneEvent 7 bppKey = .ok (some 4) ∧
      getEventValue minusOneEvent 7 bppKey = .ok (-1) := by
  refine ⟨?_, rfl, ?_, ?_, ?_⟩ <;>
    simp only [getTokenValue, getEventValue] <;> rw [findKey] <;> rfl

/-! ## The buffer `UEventThread` fills -/

/-- `PAGE_SIZE` on the devices the HAL runs on. -/
def pageSize : Nat := 4096

/-- What one round of `UEventThread`'s loop hands `UEventHandler`. -/
structure Received where
  ueventData : List UInt8
  length : Int

/-- One round of `UEventThread`'s loop on the kernel message `msg`: `uevent_data`
zero-initialised, then `uevent_next_event(uevent_data, PAGE_SIZE - 2)`, which writes the
message into it, cut at `PAGE_SIZE - 2` bytes as `recv` cuts a datagram, and returns the
number of bytes written. -/
def ueventThreadRound (msg : List UInt8) : Received :=
  let written := msg.take (pageSize - 2)
  ⟨written ++ List.replicate (pageSize - written.length) 0, written.length⟩

/-- The shape `UEventThread` gives the buffer it hands on: two bytes or more past `length`,
and only zeros from `length` on. -/
structure Received.ZeroPadded (r : Received) : Prop where
  room : r.length ≤ r.ueventData.length - 2
  zeros : ∀ (i : Nat) (h : i < r.ueventData.length), max r.length 0 ≤ i → r.ueventData[i] = 0

/-- Every buffer `UEventThread` hands on is zero-padded. -/
theorem ueventThreadRound_zeroPadded (msg : List UInt8) : (ueventThreadRound msg).ZeroPadded := by
  have hw : (msg.take (pageSize - 2)).length ≤ pageSize - 2 := by simp
  constructor
  · simp only [ueventThreadRound, List.length_append, List.length_replicate]
    unfold pageSize at hw ⊢
    omega
  · intro i hi hle
    simp only [ueventThreadRound] at hi hle ⊢
    rw [List.getElem_append_right (by omega), List.getElem_replicate]

/-! ## No read of the walk leaves the buffer -/

section Walk

variable {ueventData : List UInt8}

/-- Past `length` the walk reads nothing and finds nothing. -/
theorem findKey_of_lt {length : Int} {key : List UInt8} {p : Nat} (h : length < p) :
    findKey ueventData length key p = .ok none := by
  rw [findKey, dif_neg (by omega)]

/-- With a NUL at index `length`, no read of the walk faults, and the string it stops at
holds the key, whole, before that NUL. -/
theorem findKey_ok {z : Nat} (hz : ueventData[z]? = some 0) (key : List UInt8) (p : Nat) :
    ∃ r, findKey ueventData z key p = .ok r ∧
      ∀ it pstr, r = some (it, pstr) → it ≤ pstr ∧ pstr + key.length ≤ z := by
  by_cases hp : p ≤ z
  · obtain ⟨s, hs, hlen, -⟩ := readCString_ok_of_getElem? (ueventData.drop p) p (z - p)
      (by rwa [List.getElem?_drop, Nat.add_sub_cancel' hp])
    have hlt : p < ueventData.length := by
      have := (List.getElem?_eq_some_iff.1 hz).1
      omega
    rw [findKey, dif_pos (by omega)]
    simp only [readByte_of_getElem? (List.getElem?_eq_getElem hlt), bind_ok]
    by_cases hc : ueventData[p] = 0
    · exact ⟨none, by simp [hc], by simp⟩
    · simp only [hc, if_false, strstr, strlen, hs, map_ok, bind_ok]
      cases ho : findOffset key s with
      | some o =>
        have hol := (findOffset_sound ho).2
        exact ⟨some (p, p + o), rfl, by rintro _ _ ⟨⟩; omega⟩
      | none => exact findKey_ok hz key (p + s.length + 1)
  · exact ⟨none, findKey_of_lt (by omega), by simp⟩
termination_by z + 1 - p

/-- With a NUL at index `length`, neither parser faults. -/
theorem parsers_ok_of_nul {z : Nat} (hz : ueventData[z]? = some 0) (key : CString) :
    (∃ v, getEventValue ueventData z key = .ok v) ∧
      ∃ q, getTokenValue ueventData z key = .ok q := by
  obtain ⟨r, hr, hbound⟩ := findKey_ok hz key.bytes 0
  simp only [getEventValue, getTokenValue, hr, bind_ok]
  rcases r with _ | ⟨it, pstr⟩
  · exact ⟨⟨-1, rfl⟩, none, rfl⟩
  · obtain ⟨hle, hend⟩ := hbound it pstr rfl
    exact ⟨atoi_ok (by omega) hz, _, rfl⟩

/-- With a NUL at index `length`, `GetTokenValue` points at or before it. -/
theorem getTokenValue_ok_le {z : Nat} (hz : ueventData[z]? = some 0) (key : CString) :
    ∃ q, getTokenValue ueventData z key = .ok q ∧ ∀ i, q = some i → i ≤ z := by
  obtain ⟨r, hr, hbound⟩ := findKey_ok hz key.bytes 0
  simp only [getTokenValue, hr, bind_ok]
  rcases r with _ | ⟨it, pstr⟩
  · exact ⟨none, rfl, nofun⟩
  · exact ⟨_, rfl, fun i hi => by cases hi; exact (hbound it pstr rfl).2⟩

/-- A zero-padded buffer has a NUL at index `length`, when `length` is not negative. -/
theorem Received.ZeroPadded.nul {r : Received} (h : r.ZeroPadded) {z : Nat}
    (hz : r.length = z) : r.ueventData[z]? = some 0 := by
  have hroom := h.room
  have hlt : z < r.ueventData.length := by omega
  rw [List.getElem?_eq_getElem hlt, h.zeros z hlt (by omega)]

/-- On a zero-padded buffer neither parser faults. -/
theorem parsers_ok_of_zeroPadded {r : Received} (h : r.ZeroPadded) (key : CString) :
    (∃ v, getEventValue r.ueventData r.length key = .ok v) ∧
      ∃ q, getTokenValue r.ueventData r.length key = .ok q := by
  rcases lt_or_le r.length 0 with hneg | hnn
  · have hnone : findKey r.ueventData r.length key.bytes 0 = .ok none :=
      findKey_of_lt (by omega)
    simp only [getEventValue, getTokenValue, hnone, bind_ok]
    exact ⟨⟨_, rfl⟩, _, rfl⟩
  · obtain ⟨z, hz⟩ := Int.eq_ofNat_of_zero_le hnn
    rw [hz]
    exact parsers_ok_of_nul (h.nul hz) key

end Walk

/-- A buffer of `N` bytes, with `length ≤ N - 2` and only zeros from `max length 0` on,
lets both parsers walk it, whatever the key, without a read outside it. -/
theorem getEventValue_getTokenValue_in_bounds (ueventData : List UInt8) (length : Int)
    (hlen : length ≤ ueventData.length - 2)
    (hzero : ∀ (i : Nat) (h : i < ueventData.length), max length 0 ≤ i → ueventData[i] = 0)
    (key : CString) :
    (∃ v, getEventValue ueventData length key = .ok v) ∧
      ∃ q, getTokenValue ueventData length key = .ok q :=
  @parsers_ok_of_zeroPadded ⟨ueventData, length⟩ ⟨hlen, hzero⟩ key

/-- `max_bpp=30` with its NUL is 11 bytes, and two more zeros follow it. -/
theorem getEventValue_getTokenValue_in_bounds_max_bpp :
    (11 : Int) ≤ maxBppEvent.length - 2 ∧
      (∀ (i : Nat) (h : i < maxBppEvent.length), max 11 0 ≤ (i : Int) →
        maxBppEvent[i] = 0) ∧
      (∃ v, getEventValue maxBppEvent 11 bppKey = .ok v) ∧
      ∃ q, getTokenValue maxBppEvent 11 bppKey = .ok q :=
  ⟨by decide, by decide,
    getEventValue_getTokenValue_in_bounds maxBppEvent 11 (by decide) (by decide) bppKey⟩

/-- Whatever message the kernel sends and whatever key `UEventHandler` looks up, neither
parser reads outside the `PAGE_SIZE` buffer `UEventThread` hands it. -/
theorem ueventThreadRound_parsers_in_bounds (msg : List UInt8) (key : CString) :
    (ueventThreadRound msg).ueventData.length = pageSize ∧
      (∃ v, getEventValue (ueventThreadRound msg).ueventData
        (ueventThreadRound msg).length key = .ok v) ∧
      ∃ q, getTokenValue (ueventThreadRound msg).ueventData
        (ueventThreadRound msg).length key = .ok q := by
  refine ⟨?_, parsers_ok_of_zeroPadded (ueventThreadRound_zeroPadded msg) key⟩
  have hw : (msg.take (pageSize - 2)).length ≤ pageSize - 2 := by simp
  simp only [ueventThreadRound, List.length_append, List.length_replicate]
  omega

end HwcSession.UEvent
