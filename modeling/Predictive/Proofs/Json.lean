import Mathlib.Data.List.Basic
import Predictive.Json.Basic
import Predictive.Json.Quoted

/-!
# Strings in JSON

A string that is written in JSON is read back (`string_quote`): of every character, what is written
for it reads as its bytes (`readBytes_escapeChar`).
-/

namespace Predictive.Json

/-! ### Bytes of texts -/

theorem toList_loop (bytes : ByteArray) (i : ℕ) (done : List UInt8) :
    ByteArray.toList.loop bytes i done = done.reverse ++ bytes.data.toList.drop i := by
  fun_induction ByteArray.toList.loop bytes i done with
  | case1 i done hi ih =>
      have hlt : i < bytes.data.toList.length := by simpa using hi
      have hget : bytes.get! i = bytes.data.toList[i] := by simp [ByteArray.get!, hi]
      rw [ih, List.drop_eq_getElem_cons hlt, hget, List.reverse_cons, List.append_assoc]
      rfl
  | case2 i done hi =>
      have hle : bytes.data.toList.length ≤ i := by simpa using hi
      rw [List.drop_eq_nil_of_le hle, List.append_nil]

theorem toList_utf8Encode (chars : List Char) :
    chars.utf8Encode.toList = chars.flatMap String.utf8EncodeChar := by
  rw [ByteArray.toList, toList_loop, List.utf8Encode, List.toList_data_toByteArray]
  rfl

theorem toList_toUTF8 (s : String) : s.toUTF8.toList = s.toList.flatMap String.utf8EncodeChar := by
  rw [← toList_utf8Encode, ← String.toByteArray_ofList, String.ofList_toList]
  rfl

theorem reversedBytes_eq (code : ℕ) :
    reversedBytes code = (String.utf8EncodeChar (Char.ofNat code)).reverse := by
  rw [reversedBytes, toList_toUTF8, String.toList_ofList, List.flatMap_singleton]

/-! ### Reading -/

variable {read rest : List UInt8} {place : Place}

/-- A byte that stands for itself in a string. -/
def IsPlain (byte : UInt8) : Prop := byte ≠ 0x22 ∧ byte ≠ 0x5C ∧ ¬byte < 0x20

theorem readBytes_plain {bytes : List UInt8} (h : ∀ byte ∈ bytes, IsPlain byte) :
    readBytes .character read place (bytes ++ rest) =
      readBytes .character (bytes.reverse ++ read) (bytes.foldl Place.after place) rest := by
  induction bytes generalizing read place with
  | nil => rfl
  | cons byte bytes ih =>
      obtain ⟨⟨h₁, h₂, h₃⟩, hbytes⟩ := List.forall_mem_cons.mp h
      rw [List.cons_append, readBytes, if_neg h₁, if_neg h₂, if_neg h₃, ih hbytes,
        List.reverse_cons, List.append_assoc]
      rfl

theorem isPlain_iff {byte : UInt8} :
    IsPlain byte ↔ byte.toNat ≠ 0x22 ∧ byte.toNat ≠ 0x5C ∧ 0x20 ≤ byte.toNat := by
  rw [IsPlain, ← UInt8.toNat_inj.ne, ← UInt8.toNat_inj.ne, UInt8.lt_iff_toNat_lt, Nat.not_lt]
  rfl

/-- Bytes beyond ASCII stand for themselves, and so does ASCII but for a few characters. -/
theorem isPlain_of_mem_utf8EncodeChar {c : Char} (hquote : c ≠ '"') (hbackslash : c ≠ '\\')
    (hcontrol : ¬c.toNat < 0x20) {byte : UInt8} (h : byte ∈ String.utf8EncodeChar c) :
    IsPlain byte := by
  have hne : ∀ {d : Char}, c ≠ d → c.toNat ≠ d.toNat := fun h heq => h (Char.toNat_inj.mp heq)
  have hquote : c.val.toNat ≠ 0x22 := hne hquote
  have hbackslash : c.val.toNat ≠ 0x5C := hne hbackslash
  have hcontrol : 0x20 ≤ c.val.toNat := Nat.not_lt.mp hcontrol
  rw [isPlain_iff]
  simp only [String.utf8EncodeChar] at h
  split at h
  · obtain rfl := List.mem_singleton.mp h
    simp only [UInt8.toNat_ofNat']
    omega
  · have hhigh : 0x80 ≤ byte.toNat := by
      split at h
      · rcases List.mem_pair.mp h with rfl | rfl <;> simp only [UInt8.toNat_ofNat'] <;> omega
      · split at h
        · simp only [List.mem_cons, List.not_mem_nil, or_false] at h
          rcases h with rfl | rfl | rfl <;> simp only [UInt8.toNat_ofNat'] <;> omega
        · simp only [List.mem_cons, List.not_mem_nil, or_false] at h
          rcases h with rfl | rfl | rfl | rfl <;> simp only [UInt8.toNat_ofNat'] <;> omega
    omega

theorem hexDigit_spec : ∀ n < 16,
    String.utf8EncodeChar (hexDigit n) = [(hexDigit n).val.toUInt8] ∧
      hexDigit? (hexDigit n).val.toUInt8 = some n := by
  decide

theorem afterDigits_control {c : Char} (hc : c.toNat < 0x20) :
    afterDigits [0x30, 0x30, (hexDigit (c.toNat / 16)).val.toUInt8,
        (hexDigit (c.toNat % 16)).val.toUInt8] none =
      .ok (.character, (String.utf8EncodeChar c).reverse) := by
  have hhigh := (hexDigit_spec (c.toNat / 16) (by omega)).2
  have hlow := (hexDigit_spec (c.toNat % 16) (by omega)).2
  have hnumber : hexNumber? [0x30, 0x30, (hexDigit (c.toNat / 16)).val.toUInt8,
      (hexDigit (c.toNat % 16)).val.toUInt8] = some c.toNat := by
    have hzero : hexDigit? 0x30 = some 0 := rfl
    simp only [hexNumber?, List.foldl_cons, List.foldl_nil, hzero, hhigh, hlow, Option.bind_eq_bind,
      Option.bind_some, Option.pure_def, Option.some.injEq]
    omega
  have hlowSurrogate : isLowSurrogate c.toNat = false := by
    simp only [isLowSurrogate, Bool.and_eq_false_iff, decide_eq_false_iff_not]
    omega
  have hhighSurrogate : isHighSurrogate c.toNat = false := by
    simp only [isHighSurrogate, Bool.and_eq_false_iff, decide_eq_false_iff_not]
    omega
  simp only [afterDigits, hnumber, hlowSurrogate, hhighSurrogate, reversedBytes_eq,
    Char.ofNat_toNat, Bool.false_eq_true, if_false]

theorem readBytes_control (a b : UInt8) :
    readBytes .character read place ([0x5C, 0x75, 0x30, 0x30, a, b] ++ rest) =
      match afterDigits [0x30, 0x30, a, b] none with
      | .ok (next, bytes) =>
        readBytes next (bytes ++ read) ([0x5C, 0x75, 0x30, 0x30, a, b].foldl Place.after place) rest
      | .error fault =>
        .error ⟨fault, [0x5C, 0x75, 0x30, 0x30, a, b].foldl Place.after place⟩ :=
  rfl

/-- What is written for a character reads as its bytes. -/
theorem readBytes_escapeChar (c : Char) :
    readBytes .character read place ((escapeChar c).flatMap String.utf8EncodeChar ++ rest) =
      readBytes .character ((String.utf8EncodeChar c).reverse ++ read)
        (((escapeChar c).flatMap String.utf8EncodeChar).foldl Place.after place) rest := by
  unfold escapeChar
  split
  · next h => subst h; rfl
  split
  · next h => subst h; rfl
  split
  · next h => subst h; rfl
  split
  · next h => subst h; rfl
  split
  · next h => subst h; rfl
  split
  · next h => subst h; rfl
  split
  · next h => subst h; rfl
  split
  · next hcontrol =>
      have hhigh := (hexDigit_spec (c.toNat / 16) (by omega)).1
      have hlow := (hexDigit_spec (c.toNat % 16) (by omega)).1
      have hbytes : ['\\', 'u', '0', '0', hexDigit (c.toNat / 16),
          hexDigit (c.toNat % 16)].flatMap String.utf8EncodeChar =
            [0x5C, 0x75, 0x30, 0x30, (hexDigit (c.toNat / 16)).val.toUInt8,
              (hexDigit (c.toNat % 16)).val.toUInt8] := by
        simp only [List.flatMap_cons, List.flatMap_nil, hhigh, hlow]
        rfl
      rw [hbytes, readBytes_control, afterDigits_control hcontrol]
  · next hquote hbackslash _ _ _ _ _ hcontrol =>
      rw [List.flatMap_singleton]
      exact readBytes_plain fun byte => isPlain_of_mem_utf8EncodeChar hquote hbackslash hcontrol

theorem readBytes_flatMap_escapeChar (chars : List Char) :
    readBytes .character read place
        ((chars.flatMap escapeChar).flatMap String.utf8EncodeChar ++ rest) =
      readBytes .character ((chars.flatMap String.utf8EncodeChar).reverse ++ read)
        (((chars.flatMap escapeChar).flatMap String.utf8EncodeChar).foldl Place.after place)
        rest := by
  induction chars generalizing read place with
  | nil => rfl
  | cons c chars ih =>
      simp only [List.flatMap_cons, List.flatMap_append, List.append_assoc, List.foldl_append,
        List.reverse_append]
      rw [readBytes_escapeChar, ih]

theorem string_of_readBytes {bytes taken : List UInt8} {c : Cursor}
    (h : readBytes .character [] (place.after 0x22) bytes = .ok (taken, c)) :
    Reader.string ⟨0x22 :: bytes, place⟩ =
      .ok ((String.fromUTF8? ⟨taken.toArray⟩).getD "", c) := by
  simp only [Reader.string, Reader.skip, Cursor.next, bind, StateT.bind, get, getThe,
    MonadStateOf.get, StateT.get, pure, Except.pure, Except.bind, modify, modifyGet,
    MonadStateOf.modifyGet, StateT.modifyGet, h]
  rfl

/-- A string is read back from what is written for it, and nothing behind it is taken. -/
theorem string_quote (s : String) (rest : List UInt8) (place : Place) :
    Reader.string ⟨(quote s).toUTF8.toList ++ rest, place⟩ =
      .ok (s, ⟨rest, (quote s).toUTF8.toList.foldl Place.after place⟩) := by
  have hbytes : (quote s).toUTF8.toList =
      0x22 :: (s.toList.flatMap escapeChar).flatMap String.utf8EncodeChar ++ [0x22] := by
    rw [toList_toUTF8, quote, String.toList_append, String.toList_append, String.toList_ofList,
      List.flatMap_append, List.flatMap_append, String.toList_ofList]
    rfl
  have hutf8 :
      (⟨(s.toList.flatMap String.utf8EncodeChar).toArray⟩ : ByteArray) = s.toByteArray := by
    rw [← String.ofList_toList (s := s), String.toByteArray_ofList, String.toList_ofList]
    exact ByteArray.ext List.data_toByteArray.symm
  have hstring : String.fromUTF8? s.toByteArray = some s := dif_pos s.isValidUTF8
  have hread : readBytes .character [] (place.after 0x22)
      ((s.toList.flatMap escapeChar).flatMap String.utf8EncodeChar ++ 0x22 :: rest) =
        .ok (s.toList.flatMap String.utf8EncodeChar,
          ⟨rest, (quote s).toUTF8.toList.foldl Place.after place⟩) := by
    rw [readBytes_flatMap_escapeChar, hbytes, List.append_nil, List.foldl_append]
    simp only [readBytes, if_true, List.reverse_reverse]
    rfl
  have hbehind : (quote s).toUTF8.toList ++ rest =
      0x22 :: ((s.toList.flatMap escapeChar).flatMap String.utf8EncodeChar ++ 0x22 :: rest) := by
    rw [hbytes, List.cons_append, List.cons_append, List.append_assoc]
    rfl
  rw [hbehind, string_of_readBytes hread, hutf8, hstring]
  rfl

end Predictive.Json
