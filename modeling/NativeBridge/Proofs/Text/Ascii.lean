import NativeBridge.Text.Alphanumeric
import NativeBridge.Text.Casing
import NativeBridge.Text.Letter

/-!
# Letters within ASCII

Within ASCII the tables of letters play no part: what holds of 128 characters is looked up.
-/

namespace NativeBridge.Text

/-- What holds of the first 128 characters holds of every ASCII character. -/
@[elab_as_elim]
theorem of_ascii {motive : Char → Prop} {c : Char} (ascii : c.val < 0x80)
    (all : ∀ code : Fin 128, motive (Char.ofNat code)) : motive c := by
  have code := all ⟨c.toNat, ascii⟩
  rwa [Fin.val_mk, Char.ofNat_toNat] at code

theorem isUppercase_ascii {c : Char} (ascii : c.val < 0x80) : isUppercase c = c.isUpper :=
  of_ascii ascii (by decide +kernel)

theorem isLowercase_ascii {c : Char} (ascii : c.val < 0x80) : isLowercase c = c.isLower :=
  of_ascii ascii (by decide +kernel)

theorem isAlphanumeric_ascii {c : Char} (ascii : c.val < 0x80) :
    isAlphanumeric c = c.isAlphanum :=
  if_pos ascii

theorem ascii_of_isDigit {c : Char} (digit : c.isDigit = true) : c.val < 0x80 := by
  have last : c.val.toNat ≤ 57 := of_decide_eq_true (Bool.and_eq_true_iff.mp digit).2
  exact Nat.lt_of_le_of_lt last (by decide)

theorem ascii_of_isLower {c : Char} (lower : c.isLower = true) : c.val < 0x80 := by
  have last : c.val.toNat ≤ 122 := of_decide_eq_true (Bool.and_eq_true_iff.mp lower).2
  exact Nat.lt_of_le_of_lt last (by decide)

theorem isAlphanumeric_of_isDigit {c : Char} (digit : c.isDigit = true) :
    isAlphanumeric c = true := by
  rw [isAlphanumeric_ascii (ascii_of_isDigit digit)]
  exact Bool.or_eq_true_iff.mpr (.inr digit)

theorem lower_ascii {c : Char} (ascii : c.val < 0x80) : lower c = [c.toLower] :=
  if_pos ascii

end NativeBridge.Text
