import NativeBridge.Host.Request
import NativeBridge.Proofs.Text.Utf16

/-!
# Names across the boundary

A name whose two texts can be counted in signed words is asked for, and the
other side reads exactly that name and that size: `Request.name?_ofName?` and
`Request.size_ofName?`. A name with a longer text is never asked for. Whatever else
crosses, `WideText.text?_inverts_encode` says what is read of it.
-/

namespace NativeBridge.Host

open NativeBridge.Binding NativeBridge.Text

/-- The units of a text can be counted in a signed word. -/
def IsCountable (text : String) : Prop :=
  (Utf16.encode text).length ≤ wordLimit

/-- A size within the limit is kept by the signed word. -/
theorem toInt_ofNat_of_le {size : Nat} (bounded : size ≤ wordLimit) :
    (Int32.ofNat size).toInt = size := by
  apply Int32.toInt_ofNat_of_lt
  simp only [wordLimit] at bounded
  omega

/-- A size within the limit is not negative as a signed word. -/
theorem not_neg_ofNat_of_le {size : Nat} (bounded : size ≤ wordLimit) :
    ¬ Int32.ofNat size < 0 := by
  rw [Int32.lt_iff_toInt_lt, toInt_ofNat_of_le bounded]
  simp

namespace WideText

/-- A countable text crosses with all its units. -/
theorem ofText?_of_countable {text : String} (countable : IsCountable text) :
    ofText? text
      = some ⟨some (Utf16.encode text), Int32.ofNat (Utf16.encode text).length⟩ := by
  simp only [ofText?]
  exact if_pos countable

/-- Only countable texts cross. -/
theorem countable_of_ofText? {text : String} {wide : WideText}
    (crossed : ofText? text = some wide) : IsCountable text := by
  simp only [ofText?] at crossed
  split at crossed
  · assumption
  · cases crossed

/-- A text that crosses is read back on the other side. -/
theorem text?_ofText? {text : String} {wide : WideText}
    (crossed : ofText? text = some wide) : wide.text? = some text := by
  have countable := countable_of_ofText? crossed
  rw [ofText?_of_countable countable] at crossed
  cases crossed
  simp only [text?]
  rw [if_neg (not_neg_ofNat_of_le countable), toInt_ofNat_of_le countable, Int.toNat_natCast,
    List.take_length, Utf16.decode_encode]

/-- All units of a sequence with their number. -/
def ofUnits (units : List UInt16) : WideText :=
  ⟨some units, Int32.ofNat units.length⟩

/-- The units that count. -/
def counted (wide : WideText) : List UInt16 :=
  (wide.units.getD []).take wide.length.toInt.toNat

/-- All units of a sequence count if their number is a signed word. -/
theorem counted_ofUnits {units : List UInt16} (bounded : units.length ≤ wordLimit) :
    (ofUnits units).counted = units := by
  rw [counted, ofUnits, toInt_ofNat_of_le bounded, Int.toNat_natCast, Option.getD_some,
    List.take_length]

/-- A sequence of a countable text is what crosses. -/
theorem ofText?_eq_ofUnits {text : String} (countable : IsCountable text) :
    ofText? text = some (ofUnits (Utf16.encode text)) :=
  ofText?_of_countable countable

/-- Nothing is read exactly if the length is negative, counts units that are not there, or a
surrogate stands outside a pair. -/
theorem text?_eq_none_iff {wide : WideText} :
    wide.text? = none ↔ wide.length < 0 ∨ (wide.units = none ∧ wide.length ≠ 0) ∨
      ∃ place, Utf16.IsStray wide.counted place := by
  obtain ⟨units, length⟩ := wide
  have empty : ∀ place, ¬ Utf16.IsStray [] place := by
    rintro place (⟨⟨⟩⟩ | ⟨⟨⟩⟩)
  by_cases negative : length < 0
  · simp [text?, negative]
  · cases units with
    | some units => simp [text?, negative, Utf16.decode_eq_none_iff, counted]
    | none => by_cases none : length = 0 <;> simp [text?, negative, none, counted, empty]

/-- What is read has the units that count. -/
theorem encode_of_text? {wide : WideText} {text : String} (read : wide.text? = some text) :
    Utf16.encode text = wide.counted := by
  obtain ⟨units, length⟩ := wide
  by_cases negative : length < 0
  · simp [text?, negative] at read
  · cases units with
    | some units =>
        simp only [text?, if_neg negative] at read
        exact Utf16.encode_of_decode read
    | none =>
        obtain ⟨-, rfl⟩ : length = 0 ∧ "" = text := by simpa [text?, negative] using read
        exact List.take_nil.symm

/-- A text stands in the units that count. -/
structure Spells (wide : WideText) (text : String) : Prop where
  notNegative : 0 ≤ wide.length
  stands : wide.units = none → wide.length = 0
  encoded : Utf16.encode text = wide.counted

/-- Exactly the text is read that stands in the units that count. -/
theorem text?_eq_some_iff {wide : WideText} {text : String} :
    wide.text? = some text ↔ wide.Spells text := by
  constructor
  · intro read
    have notNone : ¬ wide.text? = none := by simp [read]
    rw [text?_eq_none_iff, not_or, not_or, not_and, Decidable.not_not, Int32.not_lt] at notNone
    exact ⟨notNone.1, notNone.2.1, encode_of_text? read⟩
  · rintro ⟨notNegative, stands, encoded⟩
    obtain ⟨units, length⟩ := wide
    rw [text?, if_neg (Int32.not_lt.mpr notNegative)]
    cases units with
    | some units =>
        have counts : Utf16.encode text = units.take length.toInt.toNat := encoded
        simp only [← counts, Utf16.decode_encode]
    | none =>
        have empty : Utf16.encode text = Utf16.encode "" := encoded.trans List.take_nil
        have isEmpty : text = "" := by
          simpa [Utf16.decode_encode] using congrArg Utf16.decode empty
        have isZero : length = 0 := stands rfl
        simp [isZero, isEmpty]

/-- Reading inverts writing: a countable text is read from its units, a text is read from no
other units, and nothing is read exactly if the length is negative, counts units that are not
there, or a surrogate stands outside a pair. -/
theorem text?_inverts_encode :
    (∀ text, IsCountable text → (ofUnits (Utf16.encode text)).text? = some text) ∧
    (∀ units : List UInt16, units.length ≤ wordLimit → (ofUnits units).counted = units) ∧
    (∀ wide text, WideText.text? wide = some text → Utf16.encode text = wide.counted) ∧
    ∀ wide : WideText, wide.text? = none ↔
      wide.length < 0 ∨ (wide.units = none ∧ wide.length ≠ 0) ∨
        ∃ place, Utf16.IsStray wide.counted place :=
  ⟨fun _ countable => text?_ofText? (ofText?_eq_ofUnits countable),
    fun _ bounded => counted_ofUnits bounded, fun _ _ read => encode_of_text? read,
    fun _ => text?_eq_none_iff⟩

/-- A mask of two units is read from these, in this order; the other order has a low surrogate
at its first place. -/
theorem text?_inverts_encode_mask :
    IsCountable "🎭!" ∧ Utf16.encode "🎭!" = [0xD83C, 0xDFAD, 0x21] ∧
      (ofUnits [0xD83C, 0xDFAD, 0x21]).text? = some "🎭!" ∧
      Utf16.IsStray (ofUnits [0xDFAD, 0xD83C, 0x21]).counted 0 ∧
      (ofUnits [0xDFAD, 0xD83C, 0x21]).text? = none := by
  obtain ⟨reads, counts, -, nothing⟩ := text?_inverts_encode
  have countable : IsCountable "🎭!" := by
    rw [IsCountable]
    decide
  have units : Utf16.encode "🎭!" = [0xD83C, 0xDFAD, 0x21] := by decide
  have stray : Utf16.IsStray (ofUnits [0xDFAD, 0xD83C, 0x21]).counted 0 := by
    rw [counts _ (by decide)]
    exact .low rfl (by decide) fun earlier before next => by omega
  refine ⟨countable, units, ?_, stray, (nothing _).mpr (.inr (.inr ⟨0, stray⟩))⟩
  rw [← units]
  exact reads _ countable

end WideText

namespace Request

/-- A name of two countable texts can be asked for. -/
theorem ofName?_of_countable {name : ExportName} (size : Int32)
    (module : IsCountable name.module) (function : IsCountable name.function) :
    ∃ request, ofName? name size = some request := by
  simp [ofName?, WideText.ofText?_of_countable module, WideText.ofText?_of_countable function]

/-- A request keeps both texts of its name and its size. -/
theorem ofName?_eq_some {name : ExportName} {size : Int32} {request : Request}
    (asked : ofName? name size = some request) :
    WideText.ofText? name.module = some request.module ∧
      WideText.ofText? name.function = some request.function ∧ request.size = size := by
  simp only [ofName?, Option.bind_eq_bind, Option.bind_eq_some_iff, Option.pure_def,
    Option.some.injEq] at asked
  obtain ⟨module, moduleCrossed, function, functionCrossed, rfl⟩ := asked
  exact ⟨moduleCrossed, functionCrossed, rfl⟩

/-- The other side reads the name that was asked for. -/
theorem name?_ofName? {name : ExportName} {size : Int32} {request : Request}
    (asked : ofName? name size = some request) : request.name? = some name := by
  obtain ⟨module, function, -⟩ := ofName?_eq_some asked
  simp [name?, WideText.text?_ofText? module, WideText.text?_ofText? function]

/-- The other side reads the size that was asked for. -/
theorem size_ofName? {name : ExportName} {size : Int32} {request : Request}
    (asked : ofName? name size = some request) : request.size = size :=
  (ofName?_eq_some asked).2.2

end Request

end NativeBridge.Host
