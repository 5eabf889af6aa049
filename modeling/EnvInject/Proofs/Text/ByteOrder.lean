import EnvInject.Secret.Set
import EnvInject.Text.Utf8
import Mathlib

/-!
# The order of texts and the order of their bytes

Texts are compared by code points. UTF-8 keeps that order: of two different characters the smaller
one has the smaller byte where their codes first differ, and neither code is a front of the other.

* `Utf8.encode_lt_encode_iff` : one text is before another iff its bytes are;
* `SecretSet.names_byteOrdered` : the names of a secret set are in byte order.
-/

namespace EnvInject

namespace Utf8

/-- The names are in the order of their bytes, each once. -/
def ByteOrdered (names : List String) : Prop := names.Pairwise fun a b => encode a < encode b

theorem encode_eq (s : String) : encode s = s.toList.flatMap String.utf8EncodeChar := by
  rw [encode, ← String.utf8Encode_toList, List.utf8Encode]
  simp

/-- The digits of a code point to the base 64, compared from the first one on. -/
theorem digits_lt {m n : Nat} (h : m < n) (hn : n < 0x110000) :
    m / 262144 % 8 < n / 262144 % 8 ∨ m / 262144 % 8 = n / 262144 % 8 ∧
      (m / 4096 % 64 < n / 4096 % 64 ∨ m / 4096 % 64 = n / 4096 % 64 ∧
        (m / 64 % 64 < n / 64 % 64 ∨ m / 64 % 64 = n / 64 % 64 ∧ m % 64 < n % 64)) := by
  have hm8 : m / 262144 % 8 = m / 262144 := Nat.mod_eq_of_lt (by omega)
  have hn8 : n / 262144 % 8 = n / 262144 := Nat.mod_eq_of_lt (by omega)
  have hm : m / 4096 = m / 64 / 64 ∧ m / 262144 = m / 64 / 64 / 64 := by omega
  have hn : n / 4096 = n / 64 / 64 ∧ n / 262144 = n / 64 / 64 / 64 := by omega
  omega

theorem toNat_byte {n : Nat} (h : n < 256) : (UInt8.ofNat n).toNat = n :=
  UInt8.toNat_ofNat_of_lt' h

theorem encodeChar_append_lt {c d : Char} (h : c < d) (x y : Bytes) :
    String.utf8EncodeChar c ++ x < String.utf8EncodeChar d ++ y := by
  have hcd : c.val.toNat < d.val.toNat := h
  have hd : d.val.toNat < 0x110000 := by
    have := d.valid
    simp only [UInt32.isValidChar, Nat.isValidChar] at this
    omega
  have hdigits := digits_lt hcd hd
  unfold String.utf8EncodeChar
  dsimp only
  -- one case for each pair of lengths: a longer code has the greater lead byte
  split_ifs <;>
    simp (disch := omega) only [List.cons_append, List.nil_append, List.cons_lt_cons_iff,
      UInt8.lt_iff_toNat_lt, ← UInt8.toNat_inj, toNat_byte] <;>
    omega

theorem flatMap_encodeChar_lt {cs ds : List Char} (h : cs < ds) :
    cs.flatMap String.utf8EncodeChar < ds.flatMap String.utf8EncodeChar := by
  induction h with
  | @nil d ds =>
    obtain ⟨b, bs, hb⟩ := List.exists_cons_of_ne_nil (String.utf8EncodeChar_ne_nil (c := d))
    rw [List.flatMap_nil, List.flatMap_cons, hb]
    exact List.nil_lt_cons _ _
  | rel h => exact encodeChar_append_lt h _ _
  | cons _ ih => exact List.append_left_lt ih

theorem encode_lt_encode {a b : String} (h : a < b) : encode a < encode b := by
  rw [encode_eq, encode_eq]
  exact flatMap_encodeChar_lt h

theorem encode_lt_encode_iff (a b : String) : encode a < encode b ↔ a < b := by
  refine ⟨fun h => ?_, encode_lt_encode⟩
  rcases lt_trichotomy a b with hab | hab | hab
  · exact hab
  · exact absurd (hab ▸ h) (List.lt_irrefl _)
  · exact absurd (encode_lt_encode hab) (List.lt_asymm h)

end Utf8

theorem SecretSet.names_byteOrdered (set : SecretSet) : Utf8.ByteOrdered set.names :=
  set.ascending.imp fun h => (Utf8.encode_lt_encode_iff _ _).2 h

end EnvInject
