import TomtitAgent.Python.Value
import TomtitAgent.Python.Sha256

/-!
# UTF-8

`encodeUtf8 s` is `s.encode("utf-8")`: it raises on a lone surrogate.  The byte sequence of an
encodable string is that of the Lean string with the same code points.

* `encodeUtf8_ok_iff`   the strings that encode are the `Encodable` ones;
* `encodeUtf8_inj`      the bytes determine the string;
* `decode_encode`       decoding gives the string back.
-/

namespace Py

def CodePoint.toChar (c : CodePoint) : Char := Char.ofNat c.val

theorem CodePoint.ofChar_toChar {c : CodePoint} (h : isSurrogate c = false) :
    CodePoint.ofChar c.toChar = c := by
  have hv : c.val.isValidChar := by
    unfold isSurrogate at h
    simp only [Bool.and_eq_false_iff, decide_eq_false_iff_not] at h
    unfold Nat.isValidChar
    have := c.isLt
    omega
  apply Fin.ext
  show (Char.ofNat c.val).toNat = c.val
  rw [Char.ofNat, dif_pos hv]
  rfl

def chars (s : PyStr) : List Char := s.map CodePoint.toChar

theorem ofChar_chars {s : PyStr} (h : Encodable s) : (chars s).map CodePoint.ofChar = s := by
  unfold chars
  rw [List.map_map]
  exact (List.map_congr_left fun c hc => CodePoint.ofChar_toChar (h c hc)).trans (List.map_id s)

def utf8Bytes (s : PyStr) : Bytes := ((chars s).flatMap String.utf8EncodeChar).toByteArray

def surrogateError : PyExc :=
  unicodeEncodeError (py "'utf-8' codec can't encode characters: surrogates not allowed")

/-- `s.encode("utf-8")` -/
def encodeUtf8 (s : PyStr) : Except PyExc Bytes :=
  if Encodable s then .ok (utf8Bytes s) else .error surrogateError

/-- `b.decode("utf-8")`, `none` where it raises. -/
def decodeUtf8 (b : Bytes) : Option PyStr :=
  (b.utf8Decode?).map fun cs => cs.toList.map CodePoint.ofChar

theorem encodeUtf8_of {s : PyStr} (h : Encodable s) :
    encodeUtf8 s = .ok (utf8Bytes s) := by
  unfold encodeUtf8
  rw [if_pos h]

theorem encodeUtf8_ok_iff {s : PyStr} : (∃ b, encodeUtf8 s = .ok b) ↔ Encodable s := by
  unfold encodeUtf8
  split
  · next h => exact ⟨fun _ => h, fun _ => ⟨_, rfl⟩⟩
  · next h => exact ⟨fun ⟨b, hb⟩ => absurd hb (by simp), fun h' => absurd h' h⟩

theorem decode_encode {s : PyStr} {b : Bytes} (h : encodeUtf8 s = .ok b) :
    decodeUtf8 b = some s := by
  have hs : Encodable s := encodeUtf8_ok_iff.mp ⟨b, h⟩
  rw [encodeUtf8_of hs] at h
  obtain rfl := Except.ok.inj h
  unfold decodeUtf8
  show Option.map _ (List.utf8Encode (chars s)).utf8Decode? = some s
  rw [List.utf8Decode?_utf8Encode, Option.map_some, List.toList_toArray, ofChar_chars hs]

theorem encodeUtf8_inj {s t : PyStr} {b : Bytes} (hs : encodeUtf8 s = .ok b)
    (ht : encodeUtf8 t = .ok b) : s = t := by
  have h := decode_encode hs
  rw [decode_encode ht] at h
  exact (Option.some.inj h).symm

end Py
