import PaymentUri.Text.Basic
/-!
# UTF-8

Texts as octets and back. Decoding is strict: it answers nothing on octets that
no text encodes, so overlong forms, surrogates and cut-off sequences are all
refused. `decodeUtf8?_eq_some_iff` says that the two directions are inverse.
-/

namespace PaymentUri.Text

def utf8 (t : Text) : List UInt8 := t.flatMap String.utf8EncodeChar

/-- The text that the octets encode, if there is one. -/
def decodeUtf8? (bytes : List UInt8) : Option Text :=
  bytes.toByteArray.utf8Decode?.map Array.toList

@[simp] theorem utf8_nil : utf8 [] = [] := rfl

@[simp] theorem utf8_cons (c : Char) (t : Text) :
    utf8 (c :: t) = String.utf8EncodeChar c ++ utf8 t := rfl

@[simp] theorem utf8_append (s t : Text) : utf8 (s ++ t) = utf8 s ++ utf8 t := by
  simp [utf8]

/-- What a text encodes to is read back as that text. -/
@[simp] theorem decodeUtf8?_utf8 (t : Text) : decodeUtf8? (utf8 t) = some t := by
  have h : (utf8 t).toByteArray = t.utf8Encode := rfl
  simp [decodeUtf8?, h]

/-- Octets are read as a text exactly when they are its encoding. -/
theorem decodeUtf8?_eq_some_iff {bytes : List UInt8} {t : Text} :
    decodeUtf8? bytes = some t ↔ bytes = utf8 t := by
  refine ⟨fun h => ?_, fun h => h ▸ decodeUtf8?_utf8 t⟩
  obtain ⟨a, ha, rfl⟩ := Option.map_eq_some_iff.1 h
  have hs : bytes.toByteArray.utf8Decode?.isSome = true := by simp [ha]
  have he := ByteArray.utf8Encode_get_utf8Decode? (h := hs)
  simp only [ha, Option.get_some] at he
  have hd : (utf8 a.toList).toByteArray = bytes.toByteArray := he
  have := congrArg (fun b : ByteArray => b.data.toList) hd
  simpa using this.symm

end PaymentUri.Text
