import HwcSession.UEvent.Parse

/-!
# The parsers on a well-formed uevent message

A uevent message is a list of fields, each a nonempty string without NUL (`ACTION=change`,
`status=connected`, …), written one after the other, each followed by a NUL: `encode`.
When the message fits, `UEventThread` hands `UEventHandler` its encoding followed by zeros,
with `length` the size of the encoding.

On such a buffer the walk of `GetEventValue` and `GetTokenValue` visits the fields in
order and stops at the first one in which `strstr` finds the key (`findKey_encode`). The
abstract lookup `keyField` says the same of the list of fields. What the two parsers then
return differs:

* `GetTokenValue` points at the value of the key: the text after the key's first
  occurrence in the first field that holds it (`valueText`);
* `GetEventValue` parses that field from byte `strlen(key)` on (`eventText`), which is the
  same text only when the occurrence starts the field.

## Main results

* `atoiFrom_append_nul`: `atoi` depends only on the string it reads, up to its NUL.
* `findKey_encode`: the walk over an encoded message finds what `keyField` finds.
* `parsers_on_encoded`: on every encoded message, whatever follows its last NUL and
  whatever the key, `GetTokenValue` points at `valueText` and `GetEventValue` returns
  `atoi` of `eventText`, or `-1` when no field holds the key; the two texts agree exactly
  when the key's first occurrence starts its field.
* `getEventValue_eq_atoi_tokenText`: the two agree when the key's first occurrence starts
  its field.
-/

namespace HwcSession.UEvent

/-! ## Messages -/

/-- A field of a uevent message: a nonempty string without NUL. -/
structure Field where
  bytes : List UInt8
  ne_nil : bytes ≠ []
  no_nul : 0 ∉ bytes

/-- A uevent message as the kernel writes it: each field, then a NUL. -/
def encode : List Field → List UInt8
  | [] => []
  | f :: fs => f.bytes ++ 0 :: encode fs

/-- The first field of `fs` that holds `key`: the offset at which it starts in `encode fs`,
the field, and the offset of the key's first occurrence in it. -/
def keyField (key : List UInt8) : List Field → Option (Nat × Field × Nat)
  | [] => none
  | f :: fs =>
    match findOffset key f.bytes with
    | some o => some (0, f, o)
    | none => (keyField key fs).map fun (p, g, o) => (f.bytes.length + 1 + p, g, o)

/-- The value of `key` in the message: the text after the key's first occurrence in the
first field that holds it. -/
def valueText (key : List UInt8) (fs : List Field) : Option (List UInt8) :=
  (keyField key fs).map fun (_, f, o) => f.bytes.drop (o + key.length)

/-- The text `GetEventValue` parses: the first field that holds `key`, past its first
`key.length` bytes. -/
def eventText (key : List UInt8) (fs : List Field) : Option (List UInt8) :=
  (keyField key fs).map fun (_, f, _) => f.bytes.drop key.length

/-- The string `GetTokenValue` points at, read up to its NUL; `none` for
`NULL`. -/
def tokenText (ueventData : List UInt8) (length : Int) (token : CString) :
    Except OutOfBuffer (Option (List UInt8)) :=
  getTokenValue ueventData length token >>= fun
  | some i => some <$> readCString (ueventData.drop i) i
  | none => .ok none

/-- Where `keyField` finds the key, the encoding holds the field, then a NUL. -/
theorem keyField_spec {key : List UInt8} :
    ∀ {fs : List Field} {p : Nat} {f : Field} {o : Nat}, keyField key fs = some (p, f, o) →
      findOffset key f.bytes = some o ∧ ∃ rest, (encode fs).drop p = f.bytes ++ 0 :: rest
  | g :: fs, p, f, o, h => by
    cases ho : findOffset key g.bytes with
    | some o' =>
      simp only [keyField, ho, Option.some.injEq, Prod.mk.injEq] at h
      obtain ⟨rfl, rfl, rfl⟩ := h
      exact ⟨ho, encode fs, rfl⟩
    | none =>
      simp only [keyField, ho, Option.map_eq_some', Prod.exists, Prod.mk.injEq] at h
      obtain ⟨p', f', o', hk, rfl, rfl, rfl⟩ := h
      obtain ⟨hf, rest, hd⟩ := keyField_spec hk
      refine ⟨hf, rest, ?_⟩
      rw [encode, show g.bytes ++ 0 :: encode fs = (g.bytes ++ [0]) ++ encode fs by simp,
        ← List.drop_drop, List.drop_left' (by simp), hd]

/-! ## Reading a string that a NUL ends -/

theorem readCString_append_nul {t : List UInt8} (h : 0 ∉ t) (rest : List UInt8) (i : Nat) :
    readCString (t ++ 0 :: rest) i = .ok t := by
  induction t generalizing i with
  | nil => simp [readCString]
  | cons b t ih =>
    have hb : b ≠ 0 := fun hb => h (hb ▸ List.mem_cons_self b t)
    simp [readCString, hb, ih (fun h' => h (List.mem_cons_of_mem b h'))]

theorem atoiDigits_append_nul {t : List UInt8} (h : 0 ∉ t) (rest rest' : List UInt8)
    (i j : Nat) (v : Int) : atoiDigits (t ++ 0 :: rest) i v = atoiDigits (t ++ 0 :: rest') j v := by
  induction t generalizing i j v with
  | nil => simp [atoiDigits, show isDigit 0 = false by decide]
  | cons b t ih =>
    simp only [List.cons_append, atoiDigits]
    split_ifs
    · exact ih (fun h' => h (List.mem_cons_of_mem b h')) _ _ _
    · rfl

theorem atoiSigned_append_nul {t : List UInt8} (h : 0 ∉ t) (rest rest' : List UInt8)
    (i j : Nat) : atoiSigned (t ++ 0 :: rest) i = atoiSigned (t ++ 0 :: rest') j := by
  obtain _ | ⟨b, t⟩ := t
  · simp only [List.nil_append, atoiSigned, show (0 : UInt8) ≠ 45 by decide,
      show (0 : UInt8) ≠ 43 by decide, if_false]
    exact atoiDigits_append_nul h rest rest' i j 0
  · have ht : 0 ∉ t := fun h' => h (List.mem_cons_of_mem b h')
    simp only [List.cons_append, atoiSigned]
    split_ifs
    · rw [atoiDigits_append_nul ht rest rest' _ (j + 1)]
    · exact atoiDigits_append_nul ht rest rest' _ _ 0
    · exact atoiDigits_append_nul h rest rest' i j 0

/-- `atoi` depends only on the string it reads, up to its NUL: neither what follows the NUL
nor where the string lies changes its value. -/
theorem atoiFrom_append_nul {t : List UInt8} (h : 0 ∉ t) (rest rest' : List UInt8)
    (i j : Nat) : atoiFrom (t ++ 0 :: rest) i = atoiFrom (t ++ 0 :: rest') j := by
  induction t generalizing i j with
  | nil =>
    simp only [List.nil_append, atoiFrom, show isSpace 0 = false by decide]
    exact atoiSigned_append_nul h rest rest' i j
  | cons b t ih =>
    simp only [List.cons_append, atoiFrom]
    split_ifs
    · exact ih (fun h' => h (List.mem_cons_of_mem b h')) _ _
    · exact atoiSigned_append_nul h rest rest' i j

/-! ## The walk over an encoded message -/

/-- The walk over the encoding of `fs`, entered after the bytes `pre` and with `length` at
the end of the encoding, finds the field `keyField` finds, at its place in the buffer. -/
theorem findKey_encode (key rest : List UInt8) :
    ∀ (fs : List Field) (pre : List UInt8),
      findKey (pre ++ encode fs ++ 0 :: rest) (pre.length + (encode fs).length) key pre.length =
        .ok ((keyField key fs).map fun (p, _, o) => (pre.length + p, pre.length + p + o))
  | [], pre => by
    have hbyte : (pre ++ encode [] ++ 0 :: rest)[pre.length]? = some 0 := by
      rw [← List.head?_drop, encode, List.append_nil, List.drop_left]
      rfl
    rw [findKey, dif_pos (by simp only [encode, List.length_append, List.length_cons]; omega)]
    simp only [readByte_of_getElem? hbyte, bind_ok, if_true]
    rfl
  | f :: fs, pre => by
    obtain ⟨b, t, ht⟩ := List.exists_cons_of_ne_nil f.ne_nil
    have hb : b ≠ 0 := fun hb => f.no_nul (by simp [ht, hb])
    have hbuf : (pre ++ encode (f :: fs) ++ 0 :: rest).drop pre.length =
        f.bytes ++ 0 :: (encode fs ++ 0 :: rest) := by
      simp [encode]
    have hbyte : (pre ++ encode (f :: fs) ++ 0 :: rest)[pre.length]? = some b := by
      rw [← List.head?_drop, hbuf, ht]
      rfl
    rw [findKey, dif_pos (by simp only [encode, List.length_append, List.length_cons]; omega)]
    simp only [readByte_of_getElem? hbyte, bind_ok, hb, if_false, strstr, strlen, hbuf,
      readCString_append_nul f.no_nul, map_ok]
    cases ho : findOffset key f.bytes with
    | some o => simp [keyField, ho]
    | none =>
      have hnext := findKey_encode key rest fs (pre ++ f.bytes ++ [0])
      have hbuf' : pre ++ f.bytes ++ [0] ++ encode fs ++ 0 :: rest =
          pre ++ encode (f :: fs) ++ 0 :: rest := by simp [encode]
      have hlen : ((pre ++ f.bytes ++ [0]).length : Int) + (encode fs).length =
          pre.length + (encode (f :: fs)).length := by simp [encode]; omega
      rw [hbuf', hlen] at hnext
      simp only [Option.map_none', bind_ok, keyField, ho]
      rw [show pre.length + f.bytes.length + 1 = (pre ++ f.bytes ++ [0]).length by
        simp only [List.length_append, List.length_singleton], hnext]
      cases keyField key fs with
      | none => rfl
      | some r =>
        obtain ⟨p, g, o⟩ := r
        simp only [Option.map_some', Except.ok.injEq, Option.some.injEq, Prod.mk.injEq,
          List.length_append, List.length_singleton]
        omega

/-- Where the first field that holds the key lies in the buffer: from `p + k`, for `k` up
to the field's length, the buffer reads the field from byte `k` on, then a NUL. -/
theorem encode_drop_of_keyField {fs : List Field} {key : List UInt8} {p : Nat} {f : Field}
    {o : Nat} (hk : keyField key fs = some (p, f, o)) (rest : List UInt8) :
    ∃ tail, ∀ k ≤ f.bytes.length,
      (encode fs ++ 0 :: rest).drop (p + k) = f.bytes.drop k ++ 0 :: (tail ++ 0 :: rest) := by
  obtain ⟨-, tail, hd⟩ := keyField_spec hk
  refine ⟨tail, fun k hk => ?_⟩
  rw [← List.drop_drop, List.drop_append_of_le_length, hd]
  · simp [List.drop_append_of_le_length hk]
  · have := congrArg List.length hd
    simp only [List.length_drop, List.length_append, List.length_cons] at this
    omega

/-- The walk over an encoded message, entered at its start. -/
theorem findKey_encode_zero (fs : List Field) (rest key : List UInt8) :
    findKey (encode fs ++ 0 :: rest) (encode fs).length key 0 =
      .ok ((keyField key fs).map fun (p, _, o) => (p, p + o)) := by
  simpa using findKey_encode key rest fs []

/-- On an encoded message `GetTokenValue` points at the value of the key. -/
theorem tokenText_encode (fs : List Field) (rest : List UInt8) (key : CString) :
    tokenText (encode fs ++ 0 :: rest) (encode fs).length key = .ok (valueText key.bytes fs) := by
  simp only [tokenText, getTokenValue, valueText, findKey_encode_zero, bind_ok]
  cases hk : keyField key.bytes fs with
  | none => rfl
  | some r =>
    obtain ⟨p, f, o⟩ := r
    obtain ⟨tail, hdrop⟩ := encode_drop_of_keyField hk rest
    have hnul : 0 ∉ f.bytes.drop (o + key.bytes.length) :=
      fun h => f.no_nul (List.mem_of_mem_drop h)
    simp only [Option.map_some', bind_ok, Nat.add_assoc,
      hdrop _ (findOffset_sound (keyField_spec hk).1).2, readCString_append_nul hnul, map_ok]

/-- On an encoded message `GetEventValue` returns `atoi` of the first field that holds the
key, past `strlen(key)` bytes, or `-1`. -/
theorem getEventValue_encode (fs : List Field) (rest : List UInt8) (key : CString) :
    getEventValue (encode fs ++ 0 :: rest) (encode fs).length key =
      match eventText key.bytes fs with
      | some text => atoiFrom (text ++ [0]) 0
      | none => .ok (-1) := by
  simp only [getEventValue, eventText, findKey_encode_zero, bind_ok]
  cases hk : keyField key.bytes fs with
  | none => rfl
  | some r =>
    obtain ⟨p, f, o⟩ := r
    obtain ⟨tail, hdrop⟩ := encode_drop_of_keyField hk rest
    have hlen := (findOffset_sound (keyField_spec hk).1).2
    have hnul : 0 ∉ f.bytes.drop key.bytes.length := fun h => f.no_nul (List.mem_of_mem_drop h)
    simp only [Option.map_some', atoi, hdrop key.bytes.length (by omega),
      atoiFrom_append_nul hnul _ [] _ 0]

/-- The text `GetEventValue` parses is the value of the key exactly when the key's first
occurrence starts the first field that holds it: past a later occurrence it is longer. -/
theorem eventText_eq_valueText_iff (key : List UInt8) (fs : List Field) :
    eventText key fs = valueText key fs ↔ ∀ p f o, keyField key fs = some (p, f, o) → o = 0 := by
  unfold eventText valueText
  cases hk : keyField key fs with
  | none => simp
  | some r =>
    obtain ⟨p, f, o⟩ := r
    have hlen := (findOffset_sound (keyField_spec hk).1).2
    simp only [Option.map_some', Option.some.injEq, Prod.mk.injEq]
    constructor
    · rintro h _ _ _ ⟨-, -, rfl⟩
      have := congrArg List.length h
      simp only [List.length_drop] at this
      omega
    · intro h
      rw [h p f o ⟨rfl, rfl, rfl⟩, Nat.zero_add]

/-- On the encoding of a message, followed by a NUL and any bytes, with `length` the size of
the encoding: `GetTokenValue` points at the value of the key, and `GetEventValue` returns
`atoi` of the field that holds it past `strlen(key)` bytes, or `-1` when no field holds it;
the two texts are the same only when the key's first occurrence starts its field. -/
theorem parsers_on_encoded (fs : List Field) (rest : List UInt8) (key : CString) :
    tokenText (encode fs ++ 0 :: rest) (encode fs).length key = .ok (valueText key.bytes fs) ∧
      getEventValue (encode fs ++ 0 :: rest) (encode fs).length key =
        (match eventText key.bytes fs with
        | some text => atoiFrom (text ++ [0]) 0
        | none => .ok (-1)) ∧
      (eventText key.bytes fs = valueText key.bytes fs ↔
        ∀ p f o, keyField key.bytes fs = some (p, f, o) → o = 0) :=
  ⟨tokenText_encode fs rest key, getEventValue_encode fs rest key,
    eventText_eq_valueText_iff key.bytes fs⟩

/-- When the key's first occurrence in the first field that holds it starts that field, as
for a field `KEY=value` looked up by `KEY=`, `GetEventValue` returns `atoi` of the string
`GetTokenValue` points at. -/
theorem getEventValue_eq_atoi_tokenText {fs : List Field} {key : CString} {p : Nat}
    {f : Field} (hk : keyField key.bytes fs = some (p, f, 0)) (rest : List UInt8) :
    tokenText (encode fs ++ 0 :: rest) (encode fs).length key =
        .ok (some (f.bytes.drop key.bytes.length)) ∧
      getEventValue (encode fs ++ 0 :: rest) (encode fs).length key =
        atoiFrom (f.bytes.drop key.bytes.length ++ [0]) 0 := by
  rw [tokenText_encode, getEventValue_encode, valueText, eventText, hk]
  simp

/-- The field `bpp=30`. -/
def bppField : Field := ⟨ascii "bpp=30", by decide, by decide⟩

/-- A DRM hotplug uevent's `bpp=30` field, looked up by `bpp=`: both parsers read `30`. -/
theorem getEventValue_eq_atoi_tokenText_bpp :
    keyField bppKey.bytes [bppField] = some (0, bppField, 0) ∧
      tokenText (encode [bppField] ++ [0]) (encode [bppField]).length bppKey =
        .ok (some (bppField.bytes.drop bppKey.bytes.length)) ∧
      getEventValue (encode [bppField] ++ [0]) (encode [bppField]).length bppKey =
        atoiFrom (bppField.bytes.drop bppKey.bytes.length ++ [0]) 0 :=
  ⟨rfl, getEventValue_eq_atoi_tokenText
    (show keyField bppKey.bytes [bppField] = some (0, bppField, 0) from rfl) []⟩

end HwcSession.UEvent
