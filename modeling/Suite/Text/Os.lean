import Suite.Text.Utf8

/-!
# Texts of the operating system

Names of files and values of variables are bytes to the operating system, and need not be UTF-8. An
`OsText` holds such bytes. Every text is one (`OsText.ofText`); `OsText.text` is how an `OsText` is
read as a text, which loses what is no UTF-8.
-/

namespace Suite

/-- A text of the operating system. -/
structure OsText where
  bytes : List UInt8
  deriving DecidableEq, Repr, Inhabited

namespace OsText

/-- A text as the operating system has it. -/
@[coe] def ofText (s : String) : OsText := ⟨Text.encode s⟩

instance : Coe String OsText := ⟨ofText⟩

/-- The text that is read; U+FFFD stands for what is no UTF-8. -/
def text (t : OsText) : String := Text.decodeLossy t.bytes

/-- Nothing is lost when the text is read. -/
def IsText (t : OsText) : Prop := ofText t.text = t

instance (t : OsText) : Decidable t.IsText := inferInstanceAs (Decidable (_ = _))

end OsText

end Suite
