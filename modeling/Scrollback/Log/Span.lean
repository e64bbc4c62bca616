/-
Spans: byte ranges into a text.  A span fits a text when it lies inside it and both its ends fall
between characters; only then does it cut out a text of its own.
-/
import Scrollback.Text.Utf8

namespace Scrollback

/-- A byte range, given by where it begins and how long it is. -/
structure Span where
  offset : Nat
  length : Nat
  deriving DecidableEq, Repr, Inhabited

namespace Span

/-- Where the range ends. -/
def stop (s : Span) : Nat :=
  s.offset + s.length

/-- The range lies inside the text, on character boundaries. -/
def Fits (s : Span) (text : String) : Prop :=
  (⟨s.offset⟩ : String.Pos.Raw).IsValid text ∧ (⟨s.stop⟩ : String.Pos.Raw).IsValid text

instance (s : Span) (text : String) : Decidable (s.Fits text) :=
  inferInstanceAs (Decidable (_ ∧ _))

/-- The text that a span cuts out; empty if it does not fit. -/
def textIn (s : Span) (text : String) : String :=
  if h : s.Fits text then text.extract ⟨_, h.1⟩ ⟨_, h.2⟩ else ""

/-! ### A text of two parts -/

variable (a b : String)

theorem isValid_utf8ByteSize : (⟨a.utf8ByteSize⟩ : String.Pos.Raw).IsValid (a ++ b) :=
  String.Pos.Raw.isValid_iff_exists_append.mpr ⟨a, b, rfl, rfl⟩

theorem fits_front : (⟨0, a.utf8ByteSize⟩ : Span).Fits (a ++ b) := by
  refine ⟨String.Pos.Raw.isValid_zero, ?_⟩
  rw [stop, Nat.zero_add]
  exact isValid_utf8ByteSize a b

theorem fits_back : (⟨a.utf8ByteSize, b.utf8ByteSize⟩ : Span).Fits (a ++ b) := by
  refine ⟨isValid_utf8ByteSize a b, ?_⟩
  rw [stop, ← String.utf8ByteSize_append]
  exact String.Pos.Raw.isValid_rawEndPos

end Span

end Scrollback
