/-!
# Text as bytes

Lines and payloads travel as UTF-8. `utf8` writes a text, and `ofUtf8?` reads exactly what `utf8`
writes.
-/

namespace Telemetry.Text

def utf8 (s : String) : List UInt8 := s.toByteArray.data.toList

/-- The text with these bytes, if they are valid UTF-8. -/
def ofUtf8? (bytes : List UInt8) : Option String := String.fromUTF8? ⟨bytes.toArray⟩

theorem ofUtf8?_utf8 (s : String) : ofUtf8? (utf8 s) = some s := by
  simp [ofUtf8?, utf8, String.fromUTF8?, String.fromUTF8, s.isValidUTF8]

theorem utf8_of_ofUtf8? {bytes : List UInt8} {s : String} (h : ofUtf8? bytes = some s) :
    utf8 s = bytes := by
  unfold ofUtf8? String.fromUTF8? at h
  split at h
  · simp at h; subst h; simp [utf8, String.fromUTF8]
  · simp at h

@[simp] theorem length_utf8 (s : String) : (utf8 s).length = s.utf8ByteSize := by
  rw [utf8, Array.length_toList]; rfl

end Telemetry.Text
