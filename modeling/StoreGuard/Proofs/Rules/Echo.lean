import StoreGuard.Proofs.Rules.Stored
import StoreGuard.Proofs.Text.Utf8
import StoreGuard.Proofs.Violation

namespace StoreGuard.Rules

open Text

/-- What the text shows of the bytes: all of them where they are a text themselves, and always the
longest text that they begin with; where they are no text, something is replaced. -/
structure Echoes (bytes : ByteArray) (s : String) : Prop where
  whole : bytes.IsValidUTF8 → s.toUTF8 = bytes
  replaced : ¬bytes.IsValidUTF8 → replacement ∈ s.toList
  begins : ∃ t, LongestText bytes t ∧ bytesOf t <+: bytesOf s

theorem echoes_lossy (bytes : ByteArray) : Echoes bytes (lossy bytes) := by
  refine ⟨toUTF8_lossy, replacement_mem_lossy, ?_⟩
  obtain ⟨t, ht⟩ := exists_longestText bytes
  exact ⟨t, ht, bytesOf_prefix_lossy ht.begins⟩

/-- A value whose content is rejected is echoed as text, and the violation with the echo comes back
from its JSON text. -/
theorem rejected_content_is_echoed (accepts : ByteArray → Bool) (message : String) (e : Entry)
    (ctx : Context) (hrejected : accepts e.value = false) :
    ∃ v s, ((valueContent accepts message).check e ctx).value = some v ∧ v.value = .string s ∧
      Echoes e.value s ∧ Violation.ofJsonText v.toJsonText = .ok v := by
  have hcheck := value_check_valueContent accepts message e ctx
  rw [hrejected, if_neg Bool.false_ne_true] at hcheck
  refine ⟨_, lossy e.value, hcheck, rfl, echoes_lossy e.value, ?_⟩
  apply Violation.ofJsonText_of_scalar
  refine ⟨.string _, fun entry hentry => ?_⟩
  rw [List.mem_singleton.1 hentry]
  exact .string e.key

/-- Two letters, a character that is cut short, another letter and a surrogate. -/
theorem rejected_content_is_echoed_cut :
    let bytes : ByteArray := ⟨#[0x61, 0xC3, 0xA9, 0xE2, 0x82, 0x62, 0xED, 0xA0, 0x80]⟩
    let accepts : ByteArray → Bool := fun bytes => bytes.size < 8
    accepts bytes = false ∧ lossy bytes = "aé\uFFFDb\uFFFD\uFFFD\uFFFD" ∧
    ∃ v s, ((valueContent accepts "too long").check ⟨"k", bytes⟩ default).value = some v ∧
      v.value = .string s ∧ Echoes bytes s ∧ Violation.ofJsonText v.toJsonText = .ok v := by
  intro bytes accepts
  have hrejected : accepts bytes = false := by decide
  exact ⟨hrejected, by decide +kernel,
    rejected_content_is_echoed accepts "too long" ⟨"k", bytes⟩ default hrejected⟩

end StoreGuard.Rules
